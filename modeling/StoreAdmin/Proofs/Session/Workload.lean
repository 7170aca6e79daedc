import StoreAdmin.Client.Login
import StoreAdmin.Proofs.Digest.Base64
import StoreAdmin.Proofs.Number.Decimal
import StoreAdmin.Proofs.Text.Utf8

/-!
# What a workload signs

The name of a workload and the text that it signs are joined of its parts
without escaping, so neither tells the parts apart: a pod may end in digits, and
every part may hold the signs that stand between them.  Both together do, for
the signs around the identifier differ, and the time holds no comma.
-/

namespace StoreAdmin

namespace Decimal

theorem toChar_ne_comma : ∀ d : Digit, d.toChar ≠ ',' := by
  decide

theorem count_comma_intText (i : Int) : (intText i).count ',' = 0 := by
  rw [List.count_eq_zero]
  intro hcomma
  rcases mem_intText hcomma with hsign | ⟨d, hdigit⟩
  · cases hsign
  · exact toChar_ne_comma d hdigit.symm

end Decimal

/-! ## Texts joined by signs -/

namespace Text

variable {x y : Char} {first second s t : List Char}

/-- Texts that are the same in front of two different signs end at the same place:
at the first difference both signs would have to stand. -/
theorem eq_of_two_signs {s' t' : List Char} (hne : x ≠ y)
    (hx : first ++ x :: s = second ++ x :: t) (hy : first ++ y :: s' = second ++ y :: t') :
    first = second := by
  induction first generalizing second with
  | nil =>
      cases second with
      | nil => rfl
      | cons c second => exact absurd ((List.cons.inj hx).1.trans (List.cons.inj hy).1.symm) hne
  | cons c first ih =>
      cases second with
      | nil => exact absurd ((List.cons.inj hx).1.symm.trans (List.cons.inj hy).1) hne
      | cons d second =>
          obtain ⟨hhead, htail⟩ := List.cons.inj hx
          rw [hhead, ih htail (List.cons.inj hy).2]

/-- A text is cut at one place only by a sign with a given number of such signs
behind it. -/
theorem eq_of_count_behind (hcut : first ++ x :: s = second ++ x :: t)
    (hcount : s.count x = t.count x) : first = second ∧ s = t := by
  induction first generalizing second with
  | nil =>
      cases second with
      | nil => exact ⟨rfl, (List.cons.inj hcut).2⟩
      | cons c second =>
          have hlonger : s = second ++ x :: t := (List.cons.inj hcut).2
          rw [hlonger, List.count_append, List.count_cons_self] at hcount
          omega
  | cons c first ih =>
      cases second with
      | nil =>
          have hlonger : first ++ x :: s = t := (List.cons.inj hcut).2
          rw [← hlonger, List.count_append, List.count_cons_self] at hcount
          omega
      | cons d second =>
          obtain ⟨hhead, htail⟩ := List.cons.inj hcut
          obtain ⟨hfirst, hrest⟩ := ih htail
          exact ⟨by rw [hhead, hfirst], hrest⟩

end Text

namespace Login

/-! ## Windows of time -/

theorem timeFactor_eq (now : Int) : timeFactor now = (now + 15000) / 30000 * 30000 := by
  have hlength : (0 : Int) ≤ 30000 := by decide
  rw [timeFactor, window, Int.fdiv_eq_ediv_of_nonneg _ hlength]
  rfl

/-- The middle of the window around an instant is the multiple of its length that is
nearest, and the later one if there are two. -/
theorem eq_timeFactor_iff (now k : Int) :
    k = timeFactor now ↔ 30000 ∣ k ∧ now - 15000 < k ∧ k ≤ now + 15000 := by
  rw [timeFactor_eq]
  constructor
  · rintro rfl
    exact ⟨Int.dvd_mul_left _ _, by omega, by omega⟩
  · rintro ⟨⟨q, rfl⟩, hlow, hhigh⟩
    omega

example :
    timeFactor 15000 = 30000 ∧ timeFactor (-15000) = 0 ∧ timeFactor (-15001) = -30000 := by
  decide

/-- The same in words of 64 bits.  A step has a result only if it fits, and division
leaves a remainder that is not negative. -/
def timeFactor64? (now : Int64) : Option Int64 := do
  let shifted ← Decimal.int64? (now.toInt + window / 2)
  let windows ← Decimal.int64? (shifted.toInt / window)
  Decimal.int64? (windows.toInt * window)

/-- An instant that a timestamp can hold, in milliseconds: from the second day of the
year -9999 to the last but one of the year 9999. -/
structure Instant where
  millis : Int64
  earliest_le : -377705023201000 ≤ millis.toInt
  le_latest : millis.toInt ≤ 253402207200999

namespace Instant

/-- The middle of the window around an instant. -/
def factor (t : Instant) : Int :=
  timeFactor t.millis.toInt

/-- No step of the rounding leaves the range of its words. -/
theorem exists_timeFactor64? (t : Instant) :
    ∃ v, timeFactor64? t.millis = some v ∧ v.toInt = t.factor := by
  have hlow := t.earliest_le
  have hhigh := t.le_latest
  obtain ⟨shifted, hshifted, hsum⟩ :=
    Decimal.exists_int64? (i := t.millis.toInt + window / 2)
      (by unfold window; omega) (by unfold window; omega)
  obtain ⟨windows, hwindows, hquotient⟩ :=
    Decimal.exists_int64? (i := shifted.toInt / window)
      (by unfold window at *; omega) (by unfold window at *; omega)
  obtain ⟨v, hv, hproduct⟩ :=
    Decimal.exists_int64? (i := windows.toInt * window)
      (by unfold window at *; omega) (by unfold window at *; omega)
  refine ⟨v, ?_, ?_⟩
  · rw [timeFactor64?, hshifted, Option.bind_eq_bind, Option.bind_some, hwindows,
      Option.bind_some, hv]
  · rw [hproduct, hquotient, hsum, factor, timeFactor_eq]
    rfl

end Instant

/-! ## Names and signed texts -/

/-- What a workload is known by. -/
structure Workload where
  objectScaleId : String
  namespaceName : String
  podName : String
  deriving DecidableEq

namespace Workload

variable {v w : Workload} {m n : Int}

/-- The name that a workload logs in with. -/
def user (w : Workload) : String :=
  serviceUser w.objectScaleId w.namespaceName w.podName

/-- The text that a workload signs at a time. -/
def signed (w : Workload) (now : Int) : String :=
  signedText (serviceUrn w.objectScaleId w.podName) now

/-- The parts of a name, with the signs between them. -/
theorem parts_eq_of_user_eq (h : v.user = w.user) :
    v.objectScaleId.toList ++ ',' :: ',' ::
        (v.namespaceName.toList ++ ',' :: v.podName.toList) =
      w.objectScaleId.toList ++ ',' :: ',' ::
        (w.namespaceName.toList ++ ',' :: w.podName.toList) := by
  rw [user, user, serviceUser, serviceUser, String.append_right_inj, String.ofList_inj] at h
  have htext := Utf8.encode_injective (Base64.encode_injective h)
  simpa using htext

/-- The parts of a signed text, with the signs between them. -/
theorem parts_eq_of_signed_eq (h : v.signed m = w.signed n) :
    v.objectScaleId.toList ++ ':' :: (":service/".toList ++
        (v.podName.toList ++ Decimal.intText (timeFactor m))) =
      w.objectScaleId.toList ++ ':' :: (":service/".toList ++
        (w.podName.toList ++ Decimal.intText (timeFactor n))) := by
  have htext := congrArg String.toList h
  simpa [signed, signedText, serviceUrn] using htext

/-- A name and a signed text belong to one workload and one window of time. -/
theorem eq_of_user_of_signed (huser : v.user = w.user) (hsigned : v.signed m = w.signed n) :
    v = w ∧ timeFactor m = timeFactor n := by
  have hnames := parts_eq_of_user_eq huser
  have htexts := parts_eq_of_signed_eq hsigned
  have hid : v.objectScaleId.toList = w.objectScaleId.toList :=
    Text.eq_of_two_signs (by decide) hnames htexts
  rw [hid] at hnames htexts
  have hplaces : v.namespaceName.toList ++ ',' :: v.podName.toList =
      w.namespaceName.toList ++ ',' :: w.podName.toList := by
    simpa using hnames
  have hsigns : v.podName.toList ++ Decimal.intText (timeFactor m) =
      w.podName.toList ++ Decimal.intText (timeFactor n) := by
    simpa using htexts
  -- The time holds no comma, so equally many commas stand in the two pods.
  have hcommas : v.podName.toList.count ',' = w.podName.toList.count ',' := by
    have hcount := congrArg (List.count ',') hsigns
    rwa [List.count_append, List.count_append, Decimal.count_comma_intText,
      Decimal.count_comma_intText] at hcount
  obtain ⟨hnamespace, hpod⟩ := Text.eq_of_count_behind hplaces hcommas
  rw [hpod] at hsigns
  have htime := Decimal.intText_injective (List.append_cancel_left hsigns)
  refine ⟨?_, htime⟩
  cases v
  cases w
  simp only [String.toList_inj] at hid hnamespace hpod
  rw [hid, hnamespace, hpod]

/-- The name alone does not tell: a comma may belong to either of its last two parts. -/
example : Workload.user ⟨"urn", "a,b", "c"⟩ = Workload.user ⟨"urn", "a", "b,c"⟩ := by
  decide

/-- Nor does the signed text: a digit may belong to the pod or to the time. -/
example :
    Workload.signed ⟨"urn", "a", "pod-3000"⟩ 0 =
      Workload.signed ⟨"urn", "b", "pod-"⟩ 30000 := by
  decide

end Workload

/-- The name and the signed text of a workload tell which workload it is and in which
window it signs, and no two workloads or windows share both.  The window is the
one around the instant, and its middle is found without leaving 64 bits. -/
theorem service_unambiguous (v w : Workload) (m n : Instant) :
    (v.user = w.user ∧ v.signed m.millis.toInt = w.signed n.millis.toInt ↔
      v.objectScaleId = w.objectScaleId ∧ v.namespaceName = w.namespaceName ∧
        v.podName = w.podName ∧ m.factor = n.factor) ∧
    (∀ k, k = m.factor ↔
      30000 ∣ k ∧ m.millis.toInt - 15000 < k ∧ k ≤ m.millis.toInt + 15000) ∧
    ∃ word, timeFactor64? m.millis = some word ∧ word.toInt = m.factor := by
  refine ⟨⟨?_, ?_⟩, eq_timeFactor_iff m.millis.toInt, m.exists_timeFactor64?⟩
  · rintro ⟨huser, hsigned⟩
    obtain ⟨rfl, htime⟩ := Workload.eq_of_user_of_signed huser hsigned
    exact ⟨rfl, rfl, rfl, htime⟩
  · rintro ⟨hid, hnamespace, hpod, htime⟩
    have htime : timeFactor m.millis.toInt = timeFactor n.millis.toInt := htime
    unfold Workload.user Workload.signed signedText
    rw [hid, hnamespace, hpod, htime]
    exact ⟨rfl, rfl⟩

/-- Half a window behind the start of 1970, which is rounded up. -/
def Instant.halfWindow : Instant where
  millis := 15000
  earliest_le := by decide
  le_latest := by decide

/-- An instant in front of 1970, a little more than half a window away from it. -/
def Instant.beforeStart : Instant where
  millis := -15001
  earliest_le := by decide
  le_latest := by decide

/-- Two workloads with one name sign different texts, and a workload signs different texts in
different windows. -/
theorem service_unambiguous_halfWindow :
    let v : Workload := ⟨"urn", "a,b", "c"⟩
    let w : Workload := ⟨"urn", "a", "b,c"⟩
    let half := Instant.halfWindow
    let before := Instant.beforeStart
    half.factor = 30000 ∧ before.factor = -30000 ∧ v.user = w.user ∧
      v.signed half.millis.toInt ≠ w.signed half.millis.toInt ∧
      v.signed half.millis.toInt ≠ v.signed before.millis.toInt ∧
      ∃ word, timeFactor64? before.millis = some word ∧ word.toInt = -30000 := by
  intro v w half before
  have huser : v.user = w.user := by decide
  obtain ⟨hworkloads, hhalf, -⟩ := service_unambiguous v w half half
  obtain ⟨hwindows, -, -⟩ := service_unambiguous v v half before
  obtain ⟨-, hbefore, word, hword, hvalue⟩ := service_unambiguous v v before before
  have hlater : half.factor = 30000 := ((hhalf 30000).mpr (by decide)).symm
  have hearlier : before.factor = -30000 := ((hbefore (-30000)).mpr (by decide)).symm
  refine ⟨hlater, hearlier, huser, fun hsigned => ?_, fun hsigned => ?_, word, hword, ?_⟩
  · obtain ⟨-, hnamespace, -⟩ := hworkloads.mp ⟨huser, hsigned⟩
    exact absurd hnamespace (by decide)
  · obtain ⟨-, -, -, hsame⟩ := hwindows.mp ⟨rfl, hsigned⟩
    rw [hlater, hearlier] at hsame
    exact absurd hsame (by decide)
  · rw [hvalue, hearlier]

end Login
end StoreAdmin
