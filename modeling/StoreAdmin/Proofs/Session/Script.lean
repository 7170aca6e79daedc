import StoreAdmin.Proofs.Session.Rounds

/-!
# Retried calls that go by a script

A script says what comes of each attempt and of each login, in the order in
which they are made.  The attempt that settles the call and the login that fails
race to end it, and the ceiling ends it if neither comes in time.  This file
proves for every script and every ceiling what comes of the call and what it
asks for on the way.
-/

namespace StoreAdmin.Retry

variable {α : Type}

/-- What a retried call asks for. -/
inductive Ask where
  | attempt (number : Nat)
  | login
  deriving DecidableEq

def Ask.isAttempt : Ask → Bool
  | .attempt _ => true
  | .login => false

/-- What comes of the attempts and of the logins, each counted from one in the
order in which they are made. -/
structure Script (α : Type) where
  outcomes : Nat → Except Error α
  visits : Nat → Except Error Unit

/-- The first `count` attempts, each followed by a login. -/
def rounds (count : Nat) : List Ask :=
  (List.range count).flatMap fun earlier => [.attempt (earlier + 1), .login]

theorem rounds_succ (count : Nat) :
    rounds (count + 1) = rounds count ++ [.attempt (count + 1), .login] := by
  simp [rounds, List.range_succ]

@[simp]
theorem countP_isAttempt_rounds (count : Nat) :
    (rounds count).countP Ask.isAttempt = count := by
  induction count with
  | zero => rfl
  | succ count ih => rw [rounds_succ, List.countP_append, ih]; rfl

@[simp]
theorem count_login_rounds (count : Nat) : (rounds count).count .login = count := by
  induction count with
  | zero => rfl
  | succ count ih => rw [rounds_succ, List.count_append, ih]; rfl

namespace Script

variable (script : Script α)

/-- The next attempt of the script, whatever number the loop gives it. -/
def attempt (number : Nat) : StateM (List Ask) (Except Error α) := fun asked =>
  (script.outcomes (asked.countP Ask.isAttempt + 1), asked ++ [.attempt number])

/-- The next login of the script. -/
def login : StateM (List Ask) (Except Error Unit) := fun asked =>
  (script.visits (asked.count .login + 1), asked ++ [.login])

/-- What comes of a retried call, and what it asked for. -/
def run (limit : Nat) : Except Error α × List Ask :=
  (Retry.run limit script.attempt script.login).run []

/-! ## What ends a call -/

/-- The first attempt that is not refused. -/
def SettlesAt (i : Nat) : Prop :=
  1 ≤ i ∧ script.outcomes i ≠ .error .unauthorized ∧
    ∀ k, 1 ≤ k → k < i → script.outcomes k = .error .unauthorized

/-- The first login that fails. -/
def FailsAt (j : Nat) (e : Error) : Prop :=
  1 ≤ j ∧ script.visits j = .error e ∧ ∀ k, 1 ≤ k → k < j → script.visits k = .ok ()

/-- An attempt settles the call within the ceiling, and no login in front of it
fails. -/
def Settles (limit i : Nat) : Prop :=
  script.SettlesAt i ∧ i ≤ limit ∧ ∀ k, 1 ≤ k → k < i → script.visits k = .ok ()

/-- A login fails with attempts left, and no attempt in front of it settles the
call. -/
def LocksOut (limit j : Nat) (e : Error) : Prop :=
  script.FailsAt j e ∧ j < limit ∧ ∀ i, script.SettlesAt i → j < i

/-- The first rounds all go on: their attempts are refused and their logins
succeed. -/
def GoesOn (count : Nat) : Prop :=
  ∀ k, 1 ≤ k → k ≤ count →
    script.outcomes k = .error .unauthorized ∧ script.visits k = .ok ()

variable {script} {limit i j k count : Nat} {e : Error}

theorem GoesOn.mono (hgoes : script.GoesOn count) (hle : k ≤ count) : script.GoesOn k :=
  fun l hl hlk => hgoes l hl (hlk.trans hle)

/-- Where no attempt settles the call up to a number, all of them are refused. -/
theorem refused_of_forall_lt (hlate : ∀ i, script.SettlesAt i → j < i) (hk : 1 ≤ k)
    (hkj : k ≤ j) : script.outcomes k = .error .unauthorized := by
  induction k using Nat.strong_induction_on with
  | h k ih =>
      by_contra hsettled
      have hsettles : script.SettlesAt k :=
        ⟨hk, hsettled, fun l hl hlk => ih l hlk hl (by omega)⟩
      exact absurd (hlate k hsettles) (by omega)

theorem Settles.goesOn (h : script.Settles limit (count + 1)) : script.GoesOn count :=
  fun k hk hle => ⟨h.1.2.2 k hk (by omega), h.2.2 k hk (by omega)⟩

theorem LocksOut.goesOn (h : script.LocksOut limit (count + 1) e) : script.GoesOn count :=
  fun k hk hle => ⟨refused_of_forall_lt h.2.2 hk (by omega), h.1.2.2 k hk (by omega)⟩

/-- If nothing ends the call before the ceiling, every attempt is refused and
every login between two of them succeeds. -/
theorem refused_of_neither (hsettles : ¬ ∃ i, script.Settles limit i)
    (hlocks : ¬ ∃ j e, script.LocksOut limit j e) (hk : 1 ≤ k) (hlimit : k ≤ limit) :
    script.outcomes k = .error .unauthorized ∧ (k < limit → script.visits k = .ok ()) := by
  induction k using Nat.strong_induction_on with
  | h k ih =>
      have hrefused : script.outcomes k = .error .unauthorized := by
        by_contra hsettled
        refine hsettles ⟨k, ⟨hk, hsettled, fun l hl hlk => ?_⟩, hlimit, fun l hl hlk => ?_⟩
        · exact (ih l hlk hl (by omega)).1
        · exact (ih l hlk hl (by omega)).2 (by omega)
      refine ⟨hrefused, fun hlt => ?_⟩
      cases hvisit : script.visits k with
      | ok _ => rfl
      | error e =>
          refine absurd ⟨k, e, ⟨hk, hvisit, fun l hl hlk => ?_⟩, hlt, fun i hi => ?_⟩ hlocks
          · exact (ih l hlk hl (by omega)).2 (by omega)
          · by_contra hle
            rcases Nat.lt_or_eq_of_le (Nat.not_lt.1 hle) with hik | rfl
            · exact hi.2.1 (ih i hik hi.1 (by omega)).1
            · exact hi.2.1 hrefused

/-! ## The run -/

section Steps

variable (script)

/-- The attempt behind some rounds is the next one of the script. -/
theorem attempt_rounds (number count : Nat) :
    (script.attempt number).run (rounds count) =
      (script.outcomes (count + 1), rounds count ++ [.attempt number]) := by
  simp [attempt, StateT.run]

/-- A login completes a round. -/
theorem login_rounds (count : Nat) :
    script.login.run (rounds count ++ [.attempt (count + 1)]) =
      (script.visits (count + 1), rounds (count + 1)) := by
  simp [login, StateT.run, rounds_succ]

end Steps

section Round

variable {left : Nat} (hrefused : script.outcomes (count + 1) = .error .unauthorized)

include hrefused

/-- With an attempt left, a refused attempt and a login take the loop one round
further. -/
theorem attempts_round (hvisit : script.visits (count + 1) = .ok ()) :
    (attempts script.attempt script.login (left + 2) (count + 1)).run (rounds count) =
      (attempts script.attempt script.login (left + 1) (count + 2)).run
        (rounds (count + 1)) := by
  have hattempt := script.attempt_rounds (count + 1) count
  rw [hrefused] at hattempt
  rw [attempts_refused hattempt, login_rounds, hvisit]

/-- With an attempt left, a refused attempt and a login that fails end the loop. -/
theorem attempts_lockedOut (hvisit : script.visits (count + 1) = .error e) :
    (attempts script.attempt script.login (left + 2) (count + 1)).run (rounds count) =
      (.error (loginError e), rounds (count + 1)) := by
  have hattempt := script.attempt_rounds (count + 1) count
  rw [hrefused] at hattempt
  rw [attempts_refused hattempt, login_rounds, hvisit]

end Round

/-- Behind rounds that go on the loop makes the attempts that are left. -/
theorem run_of_goesOn {left : Nat} (hgoes : script.GoesOn count) :
    script.run (count + (left + 1)) =
      (attempts script.attempt script.login (left + 1) (count + 1)).run (rounds count) := by
  induction count generalizing left with
  | zero =>
      rw [Nat.zero_add]
      rfl
  | succ count ih =>
      obtain ⟨hrefused, hvisit⟩ := hgoes (count + 1) (by omega) le_rfl
      rw [← attempts_round hrefused hvisit, ← ih (hgoes.mono (Nat.le_succ count))]
      congr 1
      omega

/-- The error of a failed login keeps a cancellation and names all else. -/
theorem loginError_eq (e : Error) :
    loginError e =
      if e = .cancelled then .cancelled else .authorization ("retry login: " ++ e.message) := by
  cases e <;> rfl

theorem run_of_settles (h : script.Settles limit i) :
    script.run limit = (script.outcomes i, rounds (i - 1) ++ [.attempt i]) := by
  obtain ⟨hi, hsettled, -⟩ := h.1
  obtain ⟨count, rfl⟩ := Nat.exists_eq_add_of_le' hi
  obtain ⟨left, rfl⟩ := Nat.exists_eq_add_of_le h.2.1
  have hattempts :
      (attempts script.attempt script.login (left + 1) (count + 1)).run (rounds count) =
        (script.outcomes (count + 1), rounds count ++ [.attempt (count + 1)]) :=
    attempts_settled (script.attempt_rounds (count + 1) count) hsettled
  rw [Nat.add_sub_cancel, ← hattempts, ← run_of_goesOn h.goesOn]
  congr 1
  omega

theorem run_of_locksOut (h : script.LocksOut limit j e) :
    script.run limit = (.error (loginError e), rounds j) := by
  obtain ⟨hj, hvisit, -⟩ := h.1
  obtain ⟨count, rfl⟩ := Nat.exists_eq_add_of_le' hj
  obtain ⟨left, rfl⟩ := Nat.exists_eq_add_of_lt h.2.1
  have hrefused := refused_of_forall_lt h.2.2 hj le_rfl
  have hattempts :
      (attempts script.attempt script.login (left + 2) (count + 1)).run (rounds count) =
        (.error (loginError e), rounds (count + 1)) :=
    attempts_lockedOut hrefused hvisit
  rw [← hattempts, ← run_of_goesOn h.goesOn]
  congr 1
  omega

theorem run_of_neither (hsettles : ¬ ∃ i, script.Settles limit i)
    (hlocks : ¬ ∃ j e, script.LocksOut limit j e) :
    script.run limit =
      (.error .exhausted, if limit = 0 then [] else rounds (limit - 1) ++ [.attempt limit]) := by
  cases limit with
  | zero => rfl
  | succ count =>
      have hgoes : script.GoesOn count := by
        intro k hk hle
        obtain ⟨hrefused, hvisit⟩ := refused_of_neither hsettles hlocks hk (by omega)
        exact ⟨hrefused, hvisit (by omega)⟩
      have hrefused :=
        (refused_of_neither hsettles hlocks (Nat.succ_pos count) le_rfl).1
      have hattempt := script.attempt_rounds (count + 1) count
      rw [hrefused] at hattempt
      rw [if_neg (Nat.succ_ne_zero count), Nat.add_sub_cancel]
      exact (run_of_goesOn hgoes).trans (attempts_spent hattempt)

variable (script)

/-- The law of a retried call.  The first attempt that is not refused ends it with
its own outcome, a failed login with an error of the login, and the ceiling with
an error of its own.  Attempts are numbered in their order and take turns with
logins, and no login follows the last attempt. -/
theorem run_law (limit : Nat) :
    (∀ i, script.Settles limit i →
      script.run limit = (script.outcomes i, rounds (i - 1) ++ [.attempt i])) ∧
    (∀ j e, script.LocksOut limit j e →
      script.run limit =
        (.error (if e = .cancelled then .cancelled
          else .authorization ("retry login: " ++ e.message)), rounds j)) ∧
    ((¬ ∃ i, script.Settles limit i) → (¬ ∃ j e, script.LocksOut limit j e) →
      script.run limit =
        (.error (.authorization "exhausted authentication tries"),
          if limit = 0 then [] else rounds (limit - 1) ++ [.attempt limit])) := by
  refine ⟨fun i => run_of_settles, fun j e hlocks => ?_, run_of_neither⟩
  rw [← loginError_eq]
  exact run_of_locksOut hlocks

/-- Two refused attempts. -/
def refusedTwice (visits : Nat → Except Error Unit) : Script Nat where
  outcomes i := if i ≤ 2 then .error .unauthorized else .ok i
  visits := visits

/-- The third attempt settles the call, unless the second login is refused or the
ceiling is two. -/
theorem run_law_refusedTwice :
    (refusedTwice fun _ => .ok ()).Settles 3 3 ∧
    (refusedTwice fun _ => .ok ()).run 3 =
      (.ok 3, [.attempt 1, .login, .attempt 2, .login, .attempt 3]) ∧
    (refusedTwice fun j => if j = 2 then .error .unauthorized else .ok ()).LocksOut 3 2
      .unauthorized ∧
    (refusedTwice fun j => if j = 2 then .error .unauthorized else .ok ()).run 3 =
      (.error (.authorization "retry login: unauthorized"),
        [.attempt 1, .login, .attempt 2, .login]) ∧
    (¬ ∃ i, (refusedTwice fun _ => .ok ()).Settles 2 i) ∧
    (¬ ∃ j e, (refusedTwice fun _ => .ok ()).LocksOut 2 j e) ∧
    (refusedTwice fun _ => .ok ()).run 2 =
      (.error (.authorization "exhausted authentication tries"),
        [.attempt 1, .login, .attempt 2]) := by
  have hsettles : (refusedTwice fun _ => .ok ()).Settles 3 3 := by
    refine ⟨⟨by decide, by simp [refusedTwice], fun k _ hk => ?_⟩, le_rfl, fun _ _ _ => rfl⟩
    exact if_pos (Nat.le_of_lt_succ hk)
  have hlocks : (refusedTwice fun j => if j = 2 then .error .unauthorized else .ok ()).LocksOut
      3 2 .unauthorized := by
    refine ⟨⟨by decide, rfl, fun k _ hk => if_neg hk.ne⟩, by decide, fun i hi => ?_⟩
    by_contra hle
    exact hi.2.1 (if_pos (Nat.not_lt.1 hle))
  have hnone : ¬ ∃ i, (refusedTwice fun _ => .ok ()).Settles 2 i :=
    fun ⟨i, hi, hle, _⟩ => hi.2.1 (if_pos hle)
  have hfree : ¬ ∃ j e, (refusedTwice fun _ => .ok ()).LocksOut 2 j e := by
    rintro ⟨j, e, ⟨-, hvisit, -⟩, -⟩
    cases hvisit
  exact ⟨hsettles, (run_law _ 3).1 3 hsettles, hlocks, (run_law _ 3).2.1 2 _ hlocks, hnone,
    hfree, (run_law _ 2).2.2 hnone hfree⟩

end Script

end StoreAdmin.Retry
