import Mathlib.Data.List.Chain
import StoreAdmin.Client.Retry

/-!
# The rounds of a retried call

A retried call makes an attempt and, while attempts are refused and some are
left, a login in front of the next one.  Whatever attempts and logins do to a
state, a run of the loop is a list of steps that follow each other.  How long
the list is and how attempts and logins take turns in it follows from the
ceiling, and what comes of the run is read off its last step.
-/

namespace StoreAdmin.Retry

variable {σ α : Type}

/-- A step of a retried call, with the states around it. -/
inductive Step (σ α : Type) where
  | attempt (number : Nat) (before : σ) (outcome : Except Error α) (after : σ)
  | login (before : σ) (outcome : Except Error Unit) (after : σ)

namespace Step

def before : Step σ α → σ
  | .attempt _ before _ _ => before
  | .login before _ _ => before

def after : Step σ α → σ
  | .attempt _ _ _ after => after
  | .login _ _ after => after

def isLogin : Step σ α → Bool
  | .attempt _ _ _ _ => false
  | .login _ _ _ => true

@[simp]
theorem isLogin_attempt (number : Nat) (before : σ) (outcome : Except Error α) (after : σ) :
    (Step.attempt number before outcome after).isLogin = false := rfl

@[simp]
theorem isLogin_login (before : σ) (outcome : Except Error Unit) (after : σ) :
    (Step.login before outcome after : Step σ α).isLogin = true := rfl

/-- Whether there is more to do after a step: an attempt was refused, or a login
succeeded. -/
def goesOn : Step σ α → Prop
  | .attempt _ _ outcome _ => outcome = .error .unauthorized
  | .login _ outcome _ => outcome = .ok ()

/-- What comes of a run that ends with a step. -/
def ending : Step σ α → Except Error α
  | .attempt _ _ (.error .unauthorized) _ => .error .exhausted
  | .attempt _ _ outcome _ => outcome
  | .login _ (.error e) _ => .error (loginError e)
  | .login _ (.ok ()) _ => .error .exhausted

theorem ending_of_settled {number : Nat} {before after : σ} {outcome : Except Error α}
    (hsettled : outcome ≠ .error .unauthorized) :
    (Step.attempt number before outcome after).ending = outcome := by
  unfold ending
  split
  · next hstep =>
      cases hstep
      exact absurd rfl hsettled
  · next hstep =>
      cases hstep
      rfl
  · next hstep => cases hstep
  · next hstep => cases hstep

end Step

/-! ## Counting -/

/-- The number of attempts in a list of steps. -/
def countAttempts (steps : List (Step σ α)) : Nat :=
  steps.countP (!·.isLogin)

/-- The number of visits to the login in a list of steps. -/
def countLogins (steps : List (Step σ α)) : Nat :=
  steps.countP (·.isLogin)

section Counts

variable (steps : List (Step σ α))

@[simp]
theorem countAttempts_nil : countAttempts ([] : List (Step σ α)) = 0 := rfl

@[simp]
theorem countLogins_nil : countLogins ([] : List (Step σ α)) = 0 := rfl

@[simp]
theorem countAttempts_attempt (number : Nat) (before : σ) (outcome : Except Error α)
    (after : σ) :
    countAttempts (.attempt number before outcome after :: steps) = countAttempts steps + 1 := by
  simp [countAttempts]

@[simp]
theorem countLogins_attempt (number : Nat) (before : σ) (outcome : Except Error α)
    (after : σ) :
    countLogins (.attempt number before outcome after :: steps) = countLogins steps := by
  simp [countLogins]

@[simp]
theorem countAttempts_login (before : σ) (outcome : Except Error Unit) (after : σ) :
    countAttempts (.login before outcome after :: steps) = countAttempts steps := by
  simp [countAttempts]

@[simp]
theorem countLogins_login (before : σ) (outcome : Except Error Unit) (after : σ) :
    countLogins (.login before outcome after :: steps) = countLogins steps + 1 :=
  List.countP_cons_of_pos rfl

end Counts

/-! ## Paths and rounds -/

variable (attempt : Nat → StateM σ (Except Error α)) (login : StateM σ (Except Error Unit))

/-- Steps that follow each other, each a run of the attempt or of the login. -/
inductive Path : σ → List (Step σ α) → σ → Prop
  | nil (s : σ) : Path s [] s
  | attempt {number : Nat} {s next after : σ} {outcome : Except Error α}
      {steps : List (Step σ α)} (hattempt : (attempt number).run s = (outcome, next))
      (hrest : Path next steps after) :
      Path s (.attempt number s outcome next :: steps) after
  | login {s next after : σ} {outcome : Except Error Unit} {steps : List (Step σ α)}
      (hlogin : login.run s = (outcome, next)) (hrest : Path next steps after) :
      Path s (.login s outcome next :: steps) after

/-- The steps of up to `left` attempts, the first of which has the given number,
together with what comes of them. -/
inductive Rounds :
    (left number : Nat) → σ → List (Step σ α) → Except Error α → σ → Prop
  | exhausted (number : Nat) (s : σ) :
      Rounds 0 number s [] (.error .exhausted) s
  | settled {left number : Nat} {s after : σ} {outcome : Except Error α}
      (hattempt : (attempt number).run s = (outcome, after))
      (hsettled : outcome ≠ .error .unauthorized) :
      Rounds (left + 1) number s [.attempt number s outcome after] outcome after
  | spent {number : Nat} {s after : σ}
      (hattempt : (attempt number).run s = (.error .unauthorized, after)) :
      Rounds 1 number s [.attempt number s (.error .unauthorized) after]
        (.error .exhausted) after
  | lockedOut {left number : Nat} {s middle after : σ} {e : Error}
      (hattempt : (attempt number).run s = (.error .unauthorized, middle))
      (hlogin : login.run middle = (.error e, after)) :
      Rounds (left + 2) number s
        [.attempt number s (.error .unauthorized) middle, .login middle (.error e) after]
        (.error (loginError e)) after
  | again {left number : Nat} {s middle next after : σ} {steps : List (Step σ α)}
      {outcome : Except Error α}
      (hattempt : (attempt number).run s = (.error .unauthorized, middle))
      (hlogin : login.run middle = (.ok (), next))
      (hrest : Rounds (left + 1) (number + 1) next steps outcome after) :
      Rounds (left + 2) number s
        (.attempt number s (.error .unauthorized) middle :: .login middle (.ok ()) next :: steps)
        outcome after

variable {attempt login}

namespace Path

variable {s last before after : σ} {steps : List (Step σ α)}

theorem attempt_run {number : Nat} {outcome : Except Error α}
    (hpath : Path attempt login s steps last)
    (hstep : .attempt number before outcome after ∈ steps) :
    (attempt number).run before = (outcome, after) := by
  induction hpath with
  | nil => cases hstep
  | attempt hattempt _ ih =>
      rcases List.mem_cons.1 hstep with hstep | hstep
      · cases hstep
        exact hattempt
      · exact ih hstep
  | login _ _ ih =>
      rcases List.mem_cons.1 hstep with hstep | hstep
      · cases hstep
      · exact ih hstep

theorem login_run {outcome : Except Error Unit} (hpath : Path attempt login s steps last)
    (hstep : .login before outcome after ∈ steps) : login.run before = (outcome, after) := by
  induction hpath with
  | nil => cases hstep
  | attempt _ _ ih =>
      rcases List.mem_cons.1 hstep with hstep | hstep
      · cases hstep
      · exact ih hstep
  | login hlogin _ ih =>
      rcases List.mem_cons.1 hstep with hstep | hstep
      · cases hstep
        exact hlogin
      · exact ih hstep

/-- What the attempt and the login preserve holds along the path. -/
theorem forall_before {P : σ → Prop}
    (hattempt : ∀ number s outcome next,
      (attempt number).run s = (outcome, next) → P s → P next)
    (hlogin : ∀ s outcome next, login.run s = (outcome, next) → P s → P next)
    (hpath : Path attempt login s steps last) (hs : P s) : ∀ step ∈ steps, P step.before := by
  induction hpath with
  | nil => simp
  | attempt hrun _ ih =>
      exact List.forall_mem_cons.2 ⟨hs, ih (hattempt _ _ _ _ hrun hs)⟩
  | login hrun _ ih => exact List.forall_mem_cons.2 ⟨hs, ih (hlogin _ _ _ hrun hs)⟩

/-- The path ends where its last step does. -/
theorem after_eq (hpath : Path attempt login s steps last) :
    ∀ step ∈ steps.getLast?, step.after = last := by
  induction hpath with
  | nil => simp
  | @attempt _ _ _ _ _ steps _ hrest ih =>
      intro step hstep
      cases steps with
      | nil =>
          cases hrest
          cases hstep
          rfl
      | cons => exact ih step (by rwa [List.getLast?_cons_cons] at hstep)
  | @login _ _ _ _ steps _ hrest ih =>
      intro step hstep
      cases steps with
      | nil =>
          cases hrest
          cases hstep
          rfl
      | cons => exact ih step (by rwa [List.getLast?_cons_cons] at hstep)

end Path

section Attempts

variable {left number : Nat} {s middle after : σ} {outcome : Except Error α}

theorem attempts_settled (hattempt : (attempt number).run s = (outcome, after))
    (hsettled : outcome ≠ .error .unauthorized) :
    (attempts attempt login (left + 1) number).run s = (outcome, after) := by
  rw [attempts, StateT.run_bind, hattempt]
  cases outcome with
  | ok a => rfl
  | error e =>
      cases e with
      | unauthorized => exact absurd rfl hsettled
      | _ => rfl

theorem attempts_spent
    (hattempt : (attempt number).run s = (.error .unauthorized, after)) :
    (attempts attempt login 1 number).run s = (.error .exhausted, after) := by
  rw [attempts, StateT.run_bind, hattempt]
  rfl

theorem attempts_refused
    (hattempt : (attempt number).run s = (.error .unauthorized, middle)) :
    (attempts attempt login (left + 2) number).run s =
      match login.run middle with
      | (.error e, after) => (.error (loginError e), after)
      | (.ok (), next) => (attempts attempt login (left + 1) (number + 1)).run next := by
  rw [attempts, StateT.run_bind, hattempt]
  change StateT.run (if left + 1 = 0 then _ else _) middle = _
  rw [if_neg (Nat.succ_ne_zero left), StateT.run_bind]
  cases login.run middle with
  | mk outcome next => cases outcome <;> rfl

end Attempts

/-- Every run of the loop goes in rounds. -/
theorem exists_rounds (left number : Nat) (s : σ) :
    ∃ steps, Rounds attempt login left number s steps
      ((attempts attempt login left number).run s).1
      ((attempts attempt login left number).run s).2 := by
  induction left generalizing number s with
  | zero => exact ⟨[], .exhausted number s⟩
  | succ left ih =>
      cases hattempt : (attempt number).run s with
      | mk outcome middle =>
          by_cases hsettled : outcome ≠ .error .unauthorized
          · rw [attempts_settled hattempt hsettled]
            exact ⟨_, .settled hattempt hsettled⟩
          obtain rfl : outcome = .error .unauthorized := Classical.not_not.1 hsettled
          cases left with
          | zero =>
              rw [attempts_spent hattempt]
              exact ⟨_, .spent hattempt⟩
          | succ left =>
              rw [attempts_refused hattempt]
              cases hlogin : login.run middle with
              | mk visit next =>
                  cases visit with
                  | error e => exact ⟨_, .lockedOut hattempt hlogin⟩
                  | ok _ =>
                      obtain ⟨steps, hrest⟩ := ih (number + 1) next
                      exact ⟨_, .again hattempt hlogin hrest⟩

/-- Rounds are a run of the loop. -/
theorem Rounds.run_eq {left number : Nat} {s after : σ} {steps : List (Step σ α)}
    {outcome : Except Error α}
    (hrounds : Rounds attempt login left number s steps outcome after) :
    (attempts attempt login left number).run s = (outcome, after) := by
  induction hrounds with
  | exhausted => rfl
  | settled hattempt hsettled => exact attempts_settled hattempt hsettled
  | spent hattempt => exact attempts_spent hattempt
  | lockedOut hattempt hlogin => rw [attempts_refused hattempt, hlogin]
  | again hattempt hlogin _ ih =>
      rw [attempts_refused hattempt, hlogin]
      exact ih

/-! ## The shape of the list -/

namespace Rounds

variable {left number : Nat} {s after : σ} {steps : List (Step σ α)}
variable {outcome : Except Error α}

theorem path (hrounds : Rounds attempt login left number s steps outcome after) :
    Path attempt login s steps after := by
  induction hrounds with
  | exhausted number s => exact .nil s
  | settled hattempt | spent hattempt => exact .attempt hattempt (.nil _)
  | lockedOut hattempt hlogin => exact .attempt hattempt (.login hlogin (.nil _))
  | again hattempt hlogin _ ih => exact .attempt hattempt (.login hlogin ih)

/-- The loop begins with an attempt. -/
theorem isLogin_head (hrounds : Rounds attempt login left number s steps outcome after) :
    ∀ step ∈ steps.head?, step.isLogin = false := by
  cases hrounds <;> simp

/-- Attempts and logins take turns, and nothing comes after a step that does not
go on. -/
theorem alternates (hrounds : Rounds attempt login left number s steps outcome after) :
    steps.IsChain fun step next => step.goesOn ∧ next.isLogin = !step.isLogin := by
  induction hrounds with
  | exhausted => exact .nil
  | settled | spent => exact .singleton _
  | lockedOut hattempt hlogin => exact .cons_cons ⟨rfl, rfl⟩ (.singleton _)
  | again hattempt hlogin hrest ih =>
      refine .cons_cons ⟨rfl, rfl⟩ (List.isChain_cons.2 ⟨fun step hstep => ?_, ih⟩)
      exact ⟨rfl, hrest.isLogin_head step hstep⟩

/-- A login starts where a refused attempt ended. -/
theorem exists_refused_of_login {before middle : σ} {visit : Except Error Unit}
    (hrounds : Rounds attempt login left number s steps outcome after)
    (hstep : .login before visit middle ∈ steps) :
    ∃ number first, .attempt number first (.error .unauthorized) before ∈ steps := by
  induction hrounds with
  | exhausted | settled | spent => simp at hstep
  | @lockedOut _ number s =>
      obtain ⟨rfl, -⟩ : before = _ ∧ _ := by simpa using hstep
      exact ⟨number, s, List.mem_cons_self⟩
  | @again _ number s _ _ _ _ _ _ _ _ ih =>
      rcases List.mem_cons.1 hstep with hstep | hstep
      · cases hstep
      rcases List.mem_cons.1 hstep with hstep | hstep
      · cases hstep
        exact ⟨number, s, List.mem_cons_self⟩
      obtain ⟨earlier, first, hmem⟩ := ih hstep
      exact ⟨earlier, first, List.mem_cons_of_mem _ (List.mem_cons_of_mem _ hmem)⟩

/-! ## What follows an attempt -/

theorem exists_cons (hrounds : Rounds attempt login (left + 1) number s steps outcome after) :
    ∃ result next rest, steps = .attempt number s result next :: rest := by
  cases hrounds with
  | settled | spent | lockedOut | again => exact ⟨_, _, _, rfl⟩

section Suffix

variable {k : Nat} {before next : σ} {result : Except Error α} {later : List (Step σ α)}

/-- What follows an attempt are the rounds that begin with it. -/
theorem exists_of_suffix
    (hrounds : Rounds attempt login left number s steps outcome after)
    (hsuffix : .attempt k before result next :: later <:+ steps) :
    ∃ rest, k + rest = number + left ∧
      Rounds attempt login rest k before (.attempt k before result next :: later) outcome
        after := by
  induction hrounds with
  | exhausted => simp at hsuffix
  | settled hattempt hsettled =>
      rcases List.suffix_cons_iff.1 hsuffix with hstep | hsuffix
      · cases hstep
        exact ⟨_, rfl, .settled hattempt hsettled⟩
      · simp at hsuffix
  | spent hattempt =>
      rcases List.suffix_cons_iff.1 hsuffix with hstep | hsuffix
      · cases hstep
        exact ⟨_, rfl, .spent hattempt⟩
      · simp at hsuffix
  | lockedOut hattempt hlogin =>
      rcases List.suffix_cons_iff.1 hsuffix with hstep | hsuffix
      · cases hstep
        exact ⟨_, rfl, .lockedOut hattempt hlogin⟩
      rcases List.suffix_cons_iff.1 hsuffix with hstep | hsuffix
      · cases hstep
      · simp at hsuffix
  | again hattempt hlogin hrest ih =>
      rcases List.suffix_cons_iff.1 hsuffix with hstep | hsuffix
      · cases hstep
        exact ⟨_, rfl, .again hattempt hlogin hrest⟩
      rcases List.suffix_cons_iff.1 hsuffix with hstep | hsuffix
      · cases hstep
      · obtain ⟨rest, hnumber, hlast⟩ := ih hsuffix
        exact ⟨rest, by omega, hlast⟩

/-- An attempt that is not refused ends the run. -/
theorem settled_of_suffix
    (hrounds : Rounds attempt login left number s steps outcome after)
    (hsuffix : .attempt k before result next :: later <:+ steps)
    (hsettled : result ≠ .error .unauthorized) : later = [] ∧ outcome = result := by
  obtain ⟨rest, -, hlast⟩ := hrounds.exists_of_suffix hsuffix
  cases hlast with
  | settled => exact ⟨rfl, rfl⟩
  | spent | lockedOut | again => exact absurd rfl hsettled

/-- The last attempt that is refused exhausts the run.  Any other is followed by a
login, and by the next attempt if that succeeds. -/
theorem refused_of_suffix
    (hrounds : Rounds attempt login left number s steps outcome after)
    (hsuffix : .attempt k before (.error .unauthorized) next :: later <:+ steps) :
    (k + 1 = number + left ∧ later = [] ∧ outcome = .error .exhausted) ∨
    (k + 1 < number + left ∧
      ((∃ e last, later = [.login next (.error e) last] ∧
          outcome = .error (loginError e)) ∨
        ∃ middle result last rest,
          later = .login next (.ok ()) middle :: .attempt (k + 1) middle result last :: rest)) := by
  obtain ⟨rest, hnumber, hlast⟩ := hrounds.exists_of_suffix hsuffix
  cases hlast with
  | settled hattempt hsettled => exact absurd rfl hsettled
  | spent => exact .inl ⟨hnumber, rfl, rfl⟩
  | lockedOut => exact .inr ⟨by omega, .inl ⟨_, _, rfl, rfl⟩⟩
  | again hattempt hlogin hrest =>
      obtain ⟨result, last, rest, rfl⟩ := hrest.exists_cons
      exact .inr ⟨by omega, .inr ⟨_, _, _, _, rfl⟩⟩

end Suffix

/-! ## How many steps there are -/

theorem attempts_le (hrounds : Rounds attempt login left number s steps outcome after) :
    countAttempts steps ≤ left := by
  induction hrounds with
  | exhausted | settled | spent | lockedOut => simp
  | again hattempt hlogin hrest ih => simpa using ih

/-- There is no login in front of the first attempt. -/
theorem logins_le (hrounds : Rounds attempt login left number s steps outcome after) :
    countLogins steps ≤ left - 1 := by
  induction hrounds with
  | exhausted | settled | spent | lockedOut => simp
  | again hattempt hlogin hrest ih =>
      simpa using ih

/-- A run in which every step goes on makes all the attempts. -/
theorem counts_of_goesOn (hrounds : Rounds attempt login left number s steps outcome after)
    (hall : ∀ step ∈ steps, step.goesOn) :
    countAttempts steps = left ∧ countLogins steps = left - 1 := by
  induction hrounds with
  | exhausted => simp
  | settled hattempt hsettled => exact absurd (hall _ (List.mem_singleton_self _)) hsettled
  | spent => simp
  | lockedOut hattempt hlogin =>
      have hgoesOn := hall _ (List.mem_cons_of_mem _ (List.mem_singleton_self _))
      cases hgoesOn
  | again hattempt hlogin hrest ih =>
      obtain ⟨hattempts, hlogins⟩ := ih fun step hstep =>
        hall step (List.mem_cons_of_mem _ (List.mem_cons_of_mem _ hstep))
      simp [hattempts, hlogins]

/-- What comes of the run is read off its last step. -/
theorem outcome_eq (hrounds : Rounds attempt login left number s steps outcome after) :
    outcome = (steps.getLast?.map Step.ending).getD (.error .exhausted) := by
  induction hrounds with
  | exhausted | spent | lockedOut => rfl
  | settled hattempt hsettled => exact (Step.ending_of_settled hsettled).symm
  | @again _ _ _ _ _ _ steps _ hattempt hlogin hrest ih =>
      rw [ih]
      cases steps with
      | nil => rfl
      | cons step steps => simp [List.getLast?_cons_cons]

end Rounds

end StoreAdmin.Retry
