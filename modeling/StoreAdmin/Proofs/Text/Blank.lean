import StoreAdmin.Text.Blank
import Mathlib.Data.List.TakeWhile

/-!
# Trimming what is rewritten

A text that is rewritten character by character is trimmed like the text itself, as long as the
characters to be dropped are kept as they are and nothing else starts or ends with one of them.
-/

namespace StoreAdmin.Text

variable {p : Char → Bool} {f : Char → List Char}

/-- A rewriting that neither hides a character to be dropped nor brings a new one to an end. -/
structure KeepsEnds (p : Char → Bool) (f : Char → List Char) : Prop where
  dropped : ∀ c, p c = true → f c = [c]
  start : ∀ c, p c = false → ∃ d rest, f c = d :: rest ∧ p d = false
  finish : ∀ c, p c = false → ∃ front d, f c = front ++ [d] ∧ p d = false

theorem KeepsEnds.reverse (hf : KeepsEnds p f) : KeepsEnds p fun c => (f c).reverse where
  dropped c hc := by simp only [hf.dropped c hc, List.reverse_singleton]
  start c hc := by
    obtain ⟨front, d, hcode, hd⟩ := hf.finish c hc
    exact ⟨d, front.reverse, by simp [hcode], hd⟩
  finish c hc := by
    obtain ⟨d, rest, hcode, hd⟩ := hf.start c hc
    exact ⟨rest.reverse, d, by simp [hcode], hd⟩

theorem dropWhile_flatMap (hf : KeepsEnds p f) (text : List Char) :
    (text.flatMap f).dropWhile p = (text.dropWhile p).flatMap f := by
  induction text with
  | nil => rfl
  | cons c rest ih =>
    rw [List.flatMap_cons]
    cases hc : p c with
    | true => rw [hf.dropped c hc, List.singleton_append, List.dropWhile_cons_of_pos hc,
        List.dropWhile_cons_of_pos hc, ih]
    | false =>
      obtain ⟨d, more, hcode, hd⟩ := hf.start c hc
      rw [List.dropWhile_cons_of_neg (by simp [hc]), List.flatMap_cons, hcode, List.cons_append,
        List.dropWhile_cons_of_neg (by simp [hd])]

theorem trimEnd_flatMap (hf : KeepsEnds p f) (text : List Char) :
    trimEnd p (text.flatMap f) = (trimEnd p text).flatMap f := by
  have hreverse := dropWhile_flatMap hf.reverse text.reverse
  unfold trimEnd
  rw [List.reverse_flatMap, Function.comp_def, hreverse, List.reverse_flatMap]
  simp [Function.comp_def]

theorem trim_flatMap (hf : KeepsEnds p f) (text : List Char) :
    trim p (text.flatMap f) = (trim p text).flatMap f := by
  unfold trim
  rw [dropWhile_flatMap hf, trimEnd_flatMap hf]

/-- Nothing is dropped from a text without a character to be dropped. -/
theorem dropWhile_of_none {text : List Char} (hnone : ∀ c ∈ text, p c = false) :
    text.dropWhile p = text := by
  apply List.dropWhile_eq_self_iff.mpr
  intro hnonempty
  simp [hnone _ (List.getElem_mem hnonempty)]

theorem trimEnd_of_none {text : List Char} (hnone : ∀ c ∈ text, p c = false) :
    trimEnd p text = text := by
  have hreverse : ∀ c ∈ text.reverse, p c = false :=
    fun c hc => hnone c (List.mem_reverse.mp hc)
  rw [trimEnd, dropWhile_of_none hreverse, List.reverse_reverse]

theorem trim_of_none {text : List Char} (hnone : ∀ c ∈ text, p c = false) :
    trim p text = text := by
  rw [trim, dropWhile_of_none hnone, trimEnd_of_none hnone]

end StoreAdmin.Text
