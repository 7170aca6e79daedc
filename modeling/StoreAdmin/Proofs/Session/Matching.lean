import StoreAdmin.Error

/-!
# Errors that match

A caller receives an error document inside of an error.  Two documents match by
their codes, but a document and an error match by their words, whatever the
error holds.  This file proves which documents have the same words, and with it
when an error matches as the document inside of it does.
-/

namespace StoreAdmin.ApiError

/-- The description as it is shown. -/
def shownDescription (e : ApiError) : String :=
  if e.description = "" then "Unknown" else e.description

/-- The details as they are shown behind the description. -/
def shownDetails (e : ApiError) : String :=
  if e.details = "" then "" else ": " ++ e.details

theorem message_eq (e : ApiError) : e.message = e.shownDescription ++ e.shownDetails := by
  unfold message shownDescription shownDetails
  dsimp only
  by_cases hdetails : e.details = ""
  · rw [if_pos hdetails, if_pos hdetails, String.append_empty]
  · rw [if_neg hdetails, if_neg hdetails, String.append_assoc]

/-- Whether the words of `b` are those of `a` with a later cut: what is shown as the
description of `b` is continued by the details of `a`. -/
def CutBefore (a b : ApiError) : Prop :=
  a.details ≠ "" ∧ ∃ more, b.shownDescription = a.shownDescription ++ ": " ++ more ∧
    a.details = more ++ b.shownDetails

/-- Whether two documents show the same words, cut at the same place or not. -/
def ReadsAs (a b : ApiError) : Prop :=
  a.shownDescription = b.shownDescription ∧ a.details = b.details ∨
    a.CutBefore b ∨ b.CutBefore a

variable {a b : ApiError}

theorem shownDetails_toList (e : ApiError) :
    e.details = "" ∧ e.shownDetails.toList = [] ∨
      e.details ≠ "" ∧ e.shownDetails.toList = ':' :: ' ' :: e.details.toList := by
  unfold shownDetails
  by_cases hdetails : e.details = ""
  · rw [if_pos hdetails]
    exact .inl ⟨hdetails, rfl⟩
  · rw [if_neg hdetails]
    exact .inr ⟨hdetails, String.toList_append⟩

theorem drop_shownDetails (e : ApiError) : e.shownDetails.toList.drop 2 = e.details.toList := by
  rcases shownDetails_toList e with ⟨hnone, hshown⟩ | ⟨-, hshown⟩
  · rw [hshown, hnone]
    rfl
  · rw [hshown]
    rfl

theorem details_eq_of_shownDetails (h : a.shownDetails.toList = b.shownDetails.toList) :
    a.details = b.details := by
  apply String.toList_inj.1
  rw [← drop_shownDetails, h, drop_shownDetails]

/-- What the description of `b` has more than that of `a` is the start of the details
of `a`: their mark is never cut in two. -/
theorem readsAs_of_longer {more : List Char}
    (hdescription : b.shownDescription.toList = a.shownDescription.toList ++ more)
    (hdetails : a.shownDetails.toList = more ++ b.shownDetails.toList) : a.ReadsAs b := by
  match more with
  | [] =>
      rw [List.append_nil] at hdescription
      exact .inl ⟨(String.toList_inj.1 hdescription).symm, details_eq_of_shownDetails hdetails⟩
  | [c] =>
      rcases shownDetails_toList a with ⟨-, hshown⟩ | ⟨-, hshown⟩ <;>
        rcases shownDetails_toList b with ⟨-, hshown'⟩ | ⟨-, hshown'⟩ <;>
        simp [hshown, hshown'] at hdetails
  | c :: d :: more =>
      rcases shownDetails_toList a with ⟨-, hshown⟩ | ⟨hsome, hshown⟩ <;>
        rw [hshown] at hdetails
      · cases hdetails
      · obtain ⟨rfl, hspace⟩ := List.cons.inj hdetails
        obtain ⟨rfl, hrest⟩ := List.cons.inj hspace
        have hrest : a.details.toList = more ++ b.shownDetails.toList := hrest
        refine .inr (.inl ⟨hsome, String.ofList more, ?_, ?_⟩)
        · rw [← String.toList_inj, hdescription]
          simp
        · rw [← String.toList_inj, hrest]
          simp

theorem ReadsAs.symm (h : a.ReadsAs b) : b.ReadsAs a := by
  rcases h with ⟨hdescription, hdetails⟩ | hcut | hcut
  · exact .inl ⟨hdescription.symm, hdetails.symm⟩
  · exact .inr (.inr hcut)
  · exact .inr (.inl hcut)

theorem message_eq_of_cutBefore (h : a.CutBefore b) : a.message = b.message := by
  obtain ⟨hsome, more, hdescription, hdetails⟩ := h
  have hshown : a.shownDetails = ": " ++ a.details := if_neg hsome
  rw [message_eq, message_eq, hshown, hdetails, hdescription]
  simp only [String.append_assoc]

/-- The documents with the same words. -/
theorem message_eq_iff : a.message = b.message ↔ a.ReadsAs b := by
  constructor
  · intro h
    rw [message_eq, message_eq, ← String.toList_inj, String.toList_append, String.toList_append]
      at h
    rcases List.append_eq_append_iff.1 h with ⟨more, hb, ha⟩ | ⟨more, ha, hb⟩
    · exact readsAs_of_longer hb ha
    · exact (readsAs_of_longer ha hb).symm
  · rintro (⟨hdescription, hdetails⟩ | hcut | hcut)
    · unfold shownDescription at hdescription
      rw [message, message, hdescription, hdetails]
    · exact message_eq_of_cutBefore hcut
    · exact (message_eq_of_cutBefore hcut).symm

example : message { description := "absent: bucket" } =
    message { description := "absent", details := "bucket" } := by
  decide

/-- When a document matches an error that holds a document: if both show the same
words, with whatever codes.  The document alone is matched by its code, and the
two agree only where the words are the same exactly if the codes are. -/
theorem is_api_eq_iff (a b : ApiError) :
    (a.is (.error (.api b)) = true ↔ a.ReadsAs b) ∧
    (a.is (.document b) = true ↔ a.code = b.code) ∧
    (a.is (.error (.api b)) = a.is (.document b) ↔ (a.code = b.code ↔ a.ReadsAs b)) := by
  have hmessage : a.is (.error (.api b)) = true ↔ b.message = a.message := decide_eq_true_iff
  have hwords : a.is (.error (.api b)) = true ↔ a.ReadsAs b := by
    rw [hmessage, eq_comm, message_eq_iff]
  have hcode : a.is (.document b) = true ↔ a.code = b.code := decide_eq_true_iff
  refine ⟨hwords, hcode, ?_⟩
  rw [Bool.eq_iff_iff, hwords, hcode]
  exact Iff.comm

/-- A document about an absent thing, in the words of a server. -/
def absentEntity : ApiError :=
  { code := 1004, description := "Unable to find entity" }

/-- A document about something else that is worded as if a thing was absent. -/
def misworded : ApiError :=
  { code := 1013, description := "not found" }

/-- The error around a document with the code for an absent thing does not match it,
and the error around a document with another code does. -/
theorem not_is_api_eq_notFound :
    notFound.is (.document absentEntity) = true ∧
    notFound.is (.error (.api absentEntity)) = false ∧
    notFound.is (.document misworded) = false ∧ notFound.is (.error (.api misworded)) = true := by
  decide

end StoreAdmin.ApiError
