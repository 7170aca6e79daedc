import StoreAdmin.Record.Xml
import Mathlib.Data.List.SplitBy

/-!
# Runs of equally named elements

The children of an element are taken in runs, in which the items of a list stand together.  What is
read depends on the runs only.
-/

namespace StoreAdmin.Xml

/-- An element as a record of its parts. -/
structure Element where
  name : List Char
  attributes : List Char
  content : List Node

namespace Element

def node (x : Element) : Node :=
  .element x.name x.attributes x.content

/-- The name that an element is looked up by. -/
def key (x : Element) : String :=
  keyOf x.name

/-- Whether an element behind `x` is an item of the same list. -/
def joins (isList : String → Bool) (x y : Element) : Bool :=
  isList x.key && x.name = y.name

end Element

open Element (node)

variable {isList : String → Bool}

/-- The runs of some elements. -/
def runs (isList : String → Bool) (elements : List Element) : List (List Element) :=
  elements.splitBy (Element.joins isList)

/-- The field of a run. -/
def runSource : List Element → String × Source
  | [] => ("", .nodes [])
  | x :: run => (x.key, .nodes ((x :: run).map node))

/-- The fields of some elements. -/
def runSources (isList : String → Bool) (elements : List Element) : List (String × Source) :=
  (runs isList elements).map runSource

theorem runSources_append {front back : List Element}
    (hapart : ∀ x ∈ front.getLast?, ∀ y ∈ back.head?, x.joins isList y = false) :
    runSources isList (front ++ back) = runSources isList front ++ runSources isList back := by
  rw [runSources, runs, List.splitBy_append hapart, List.map_append]
  rfl

theorem runSources_cons {x : Element} (hx : isList x.key = false) (elements : List Element) :
    runSources isList (x :: elements) = runSource [x] :: runSources isList elements := by
  have hapart : ∀ y ∈ [x].getLast?, ∀ z ∈ elements.head?, y.joins isList z = false := by
    intro y hy z _
    rw [List.getLast?_singleton, Option.mem_some_iff] at hy
    rw [← hy, Element.joins, hx, Bool.false_and]
  exact runSources_append hapart

theorem runSources_of_run {x : Element} {run : List Element} (hx : isList x.key = true)
    (hrun : ∀ y ∈ run, y.name = x.name) :
    runSources isList (x :: run) = [runSource (x :: run)] := by
  have hname : ∀ y ∈ x :: run, y.name = x.name := by
    intro y hy
    obtain rfl | hy := List.mem_cons.mp hy
    · rfl
    · exact hrun y hy
  have hchain : (x :: run).IsChain fun y z => y.joins isList z = true := by
    refine (List.pairwise_of_forall_mem_list fun y hy z hz => ?_).isChain
    have hkey : isList y.key = true := by
      rw [Element.key, hname y hy]
      exact hx
    rw [Element.joins, hkey, hname y hy, hname z hz, decide_eq_true rfl]
    rfl
  rw [runSources, runs, List.splitBy_of_isChain (by simp) hchain]
  rfl

/-! ## One element after the other -/

section Steps

variable {z : Element} {rest nodes : List Node} {key : String} {name : List Char}

theorem childSources_of_list (hz : isList z.key = true) :
    childSources isList none (z.node :: rest) =
      childSources isList (some (z.key, z.name, [z.node])) rest :=
  if_pos hz

theorem childSources_of_single (hz : isList z.key = false) :
    childSources isList none (z.node :: rest) =
      (childSources isList none rest).map (runSource [z] :: ·) :=
  if_neg (Bool.eq_false_iff.mp hz)

theorem childSources_of_same (hname : name = z.name) :
    childSources isList (some (key, name, nodes)) (z.node :: rest) =
      childSources isList (some (key, name, z.node :: nodes)) rest :=
  if_pos hname

/-- An element with another name ends a run, and the rest is taken for itself. -/
theorem childSources_of_other (hname : name ≠ z.name) :
    childSources isList (some (key, name, nodes)) (z.node :: rest) =
      (childSources isList none (z.node :: rest)).map ((key, .nodes nodes.reverse) :: ·) := by
  refine (if_neg hname).trans ?_
  by_cases hz : isList z.key = true
  · rw [childSources_of_list hz]
    exact if_pos hz
  · rw [childSources_of_single (Bool.eq_false_iff.mpr hz), Option.map_map]
    exact if_neg hz

end Steps

/-- The fields of a content of elements are those of its runs. -/
theorem childSources_eq (isList : String → Bool) (elements : List Element) :
    childSources isList none (elements.map node) = some (runSources isList elements) ∧
      ∀ x run, isList x.key = true → (∀ y ∈ run, y.name = x.name) →
        childSources isList (some (x.key, x.name, ((x :: run).map node).reverse))
            (elements.map node) = some (runSources isList (x :: run ++ elements)) := by
  induction elements with
  | nil =>
    refine ⟨rfl, fun x run hx hrun => ?_⟩
    rw [List.append_nil, runSources_of_run hx hrun, List.map_nil, childSources,
      List.reverse_reverse]
    rfl
  | cons z elements ih =>
    obtain ⟨hnone, hopen⟩ := ih
    have hown : childSources isList none ((z :: elements).map node) =
        some (runSources isList (z :: elements)) := by
      rw [List.map_cons]
      by_cases hz : isList z.key = true
      · rw [childSources_of_list hz]
        exact hopen z [] hz (by simp)
      · rw [Bool.not_eq_true] at hz
        rw [childSources_of_single hz, hnone, runSources_cons hz]
        rfl
    refine ⟨hown, fun x run hx hrun => ?_⟩
    by_cases hname : x.name = z.name
    · have hlonger : ∀ y ∈ run ++ [z], y.name = x.name := by
        intro y hy
        obtain hy | hy := List.mem_append.mp hy
        · exact hrun y hy
        · rw [List.mem_singleton.mp hy, hname]
      have hrest := hopen x (run ++ [z]) hx hlonger
      rw [List.map_cons (a := z), childSources_of_same hname]
      simpa using hrest
    · have hapart : ∀ y ∈ (x :: run).getLast?, ∀ w ∈ (z :: elements).head?,
          y.joins isList w = false := by
        intro y hy w hw
        have hy : y.name = x.name := by
          obtain rfl | hy := List.mem_cons.mp (List.mem_of_getLast? hy)
          · rfl
          · exact hrun y hy
        cases hw
        simp [Element.joins, hy, hname]
      rw [List.map_cons (a := z), childSources_of_other hname, ← List.map_cons, hown,
        runSources_append hapart, runSources_of_run hx hrun, List.reverse_reverse]
      rfl

/-! ## Elements in another order -/

/-- Elements with other names in between keep runs apart. -/
theorem runSources_flatten {blocks : List (List Element)}
    (hapart : blocks.Pairwise fun b c => ∀ x ∈ b, ∀ y ∈ c, x.key ≠ y.key) :
    runSources isList blocks.flatten = (blocks.map (runSources isList)).flatten := by
  induction blocks with
  | nil => rfl
  | cons block blocks ih =>
    obtain ⟨hfirst, hrest⟩ := List.pairwise_cons.mp hapart
    have hbetween : ∀ x ∈ block.getLast?, ∀ y ∈ blocks.flatten.head?,
        x.joins isList y = false := by
      intro x hx y hy
      obtain ⟨other, hother, hmem⟩ := List.mem_flatten.mp (List.mem_of_mem_head? hy)
      have hkey := hfirst other hother x (List.mem_of_getLast? hx) y hmem
      have hname : x.name ≠ y.name := fun heq => hkey (congrArg keyOf heq)
      simp [Element.joins, hname]
    rw [List.flatten_cons, runSources_append hbetween, ih hrest, List.map_cons, List.flatten_cons]

/-! ## Elements one by one -/

/-- Lists that are cut in pieces of the same lengths are related piece by piece. -/
theorem forall₂_of_flatten {α β : Type} {R : α → β → Prop} {as : List (List α)}
    {bs : List (List β)} (hlengths : as.map List.length = bs.map List.length)
    (hall : List.Forall₂ R as.flatten bs.flatten) : List.Forall₂ (List.Forall₂ R) as bs := by
  induction as generalizing bs with
  | nil =>
    rw [List.map_eq_nil_iff.mp hlengths.symm]
    exact .nil
  | cons a as ih =>
    cases bs with
    | nil => cases hlengths
    | cons b bs =>
      obtain ⟨hlength, hlengths⟩ := List.cons.inj hlengths
      have hfirst := List.forall₂_take_append _ _ _ hall
      have hrest := List.forall₂_drop_append _ _ _ hall
      rw [List.flatten_cons, ← hlength] at hfirst hrest
      rw [List.take_left] at hfirst
      rw [List.drop_left] at hrest
      exact .cons hfirst (ih hlengths hrest)

theorem splitBy_map {α β : Type} (f : α → β) (r : β → β → Bool) (l : List α) :
    (l.map f).splitBy r = (l.splitBy fun a b => r (f a) (f b)).map (List.map f) := by
  rw [List.splitBy_eq_iff]
  refine ⟨?_, by simp, ?_, ?_⟩
  · rw [← List.map_flatten, List.flatten_splitBy]
  · intro m hm
    obtain ⟨part, hpart, rfl⟩ := List.mem_map.mp hm
    exact (List.isChain_map f).mpr (List.isChain_of_mem_splitBy hpart)
  · refine (List.isChain_map _).mpr ((List.isChain_getLast_head_splitBy _ l).imp ?_)
    rintro a b ⟨ha, hb, hr⟩
    exact ⟨by simpa, by simpa, by simpa [List.getLast_map, List.head_map] using hr⟩

/-- The lengths of the runs of some elements. -/
def runLengths (isList : String → Bool) (elements : List Element) : List Nat :=
  (runs isList elements).map List.length

/-- The names of elements decide how long their runs are. -/
theorem runLengths_congr {elements elements' : List Element}
    (hnames : elements.map Element.name = elements'.map Element.name) :
    runLengths isList elements = runLengths isList elements' := by
  have hlengths : ∀ elements : List Element, runLengths isList elements =
      ((elements.map Element.name).splitBy fun n m => isList (keyOf n) && n = m).map
        List.length := by
    intro elements
    rw [splitBy_map, List.map_map, runLengths]
    exact List.map_congr_left fun run _ => (List.length_map _).symm
  rw [hlengths, hlengths, hnames]

/-- All elements of a run have the name of the first one. -/
theorem key_of_isChain {x : Element} {run : List Element}
    (hchain : (x :: run).IsChain fun y z => y.joins isList z = true) :
    ∀ y ∈ run, y.key = x.key := by
  induction run generalizing x with
  | nil => simp
  | cons z run ih =>
    obtain ⟨hjoins, hrest⟩ := List.isChain_cons_cons.mp hchain
    have hname : x.name = z.name := by simpa using (Bool.and_eq_true_iff.mp hjoins).2
    have hkey : z.key = x.key := (congrArg keyOf hname).symm
    intro y hy
    obtain rfl | hy := List.mem_cons.mp hy
    · exact hkey
    · exact (ih hrest y hy).trans hkey

/-- Elements that are related one by one, in runs of the same lengths, have fields that are related
as soon as the fields of runs are. -/
theorem runSources_forall₂ {R : Element → Element → Prop}
    {S : String × Source → String × Source → Prop} {elements elements' : List Element}
    (hlengths : runLengths isList elements = runLengths isList elements')
    (hall : List.Forall₂ R elements elements')
    (hrun : ∀ x y run run',
      (∀ z ∈ run, z.key = x.key) → R x y → List.Forall₂ R run run' →
      S (runSource (x :: run)) (runSource (y :: run'))) :
    List.Forall₂ S (runSources isList elements) (runSources isList elements') := by
  have hall : List.Forall₂ R (runs isList elements).flatten (runs isList elements').flatten := by
    rw [runs, runs, List.flatten_splitBy, List.flatten_splitBy]
    exact hall
  have hruns := forall₂_of_flatten hlengths hall
  have hchains : ∀ run ∈ runs isList elements,
      run ≠ [] ∧ run.IsChain fun y z => y.joins isList z = true := fun run hmem =>
    ⟨List.ne_nil_of_mem_splitBy hmem, List.isChain_of_mem_splitBy hmem⟩
  rw [runSources, runSources]
  generalize runs isList elements = groups at hruns hchains ⊢
  generalize runs isList elements' = groups' at hruns ⊢
  induction hruns with
  | nil => exact .nil
  | @cons run run' rest rest' hfirst _ ih =>
    obtain ⟨hne, hchain⟩ := hchains run List.mem_cons_self
    refine .cons ?_ (ih fun run hmem => hchains run (List.mem_cons_of_mem _ hmem))
    cases hfirst with
    | nil => exact absurd rfl hne
    | cons hxy hrest => exact hrun _ _ _ _ (key_of_isChain hchain) hxy hrest

end StoreAdmin.Xml
