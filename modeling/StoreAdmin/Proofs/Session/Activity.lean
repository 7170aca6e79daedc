import Mathlib.Order.Defs.Unbundled
import StoreAdmin.Client.Exchange

/-!
# Activities from world to world

An activity started in a world has an outcome and leaves another world behind.
This file computes both along the constructions that activities are made of,
and packages the two kinds of facts that are proved about whole activities:
a preorder of worlds that every exchange moves along, and a property of every
value that is returned.
-/

namespace StoreAdmin.Act

variable {α β : Type}

/-- The outcome of an activity that starts in a world, and the world that it
leaves behind. -/
def exec (act : Act α) (w : World) : Except Error α × World :=
  (ExceptT.run act).run w

@[simp]
theorem exec_pure (a : α) (w : World) : exec (pure a) w = (.ok a, w) := rfl

@[simp]
theorem exec_throw (e : Error) (w : World) :
    exec (throw e : Act α) w = (.error e, w) := rfl

@[simp]
theorem exec_get (w : World) : exec get w = (.ok w, w) := rfl

@[simp]
theorem exec_set (next w : World) : exec (set next) w = (.ok ⟨⟩, next) := rfl

@[simp]
theorem exec_modify (f : World → World) (w : World) :
    exec (modify f) w = (.ok ⟨⟩, f w) := rfl

@[simp]
theorem exec_lift (outcome : Except Error α) (w : World) :
    exec (liftM outcome) w = (outcome, w) := rfl

@[simp]
theorem exec_mk (run : StateM World (Except Error α)) (w : World) :
    exec (ExceptT.mk run) w = run w := rfl

theorem exec_bind (act : Act α) (f : α → Act β) (w : World) :
    exec (act >>= f) w =
      match exec act w with
      | (.ok a, after) => exec (f a) after
      | (.error e, after) => (.error e, after) := by
  have hrun : exec (act >>= f) w = ExceptT.bindCont f (act w).1 (act w).2 := rfl
  rw [hrun]
  cases hexec : act w with
  | mk outcome after =>
      have hexec : exec act w = (outcome, after) := hexec
      rw [hexec]
      cases outcome <;> rfl

theorem exec_tryCatch (act : Act α) (f : Error → Act α) (w : World) :
    exec (tryCatch act f) w =
      match exec act w with
      | (.ok a, after) => (.ok a, after)
      | (.error e, after) => exec (f e) after := by
  cases hexec : exec act w with
  | mk outcome after =>
      have hrun : act w = (outcome, after) := hexec
      unfold exec ExceptT.run StateT.run
      simp only [tryCatch, tryCatchThe, MonadExceptOf.tryCatch, ExceptT.tryCatch,
        ExceptT.mk, bind, StateT.bind, hrun]
      cases outcome <;> rfl

/-! ## Moving along a preorder of worlds -/

/-- From every world the activity goes along `R`. -/
def Moves (R : World → World → Prop) (act : Act α) : Prop :=
  ∀ w, R w (act.exec w).2

section Moves

variable {R : World → World → Prop} [IsPreorder World R]

theorem moves_throw (e : Error) : Moves R (throw e : Act α) :=
  fun w => refl w

theorem moves_get : Moves R (get : Act World) :=
  fun w => refl w

theorem moves_lift (outcome : Except Error α) : Moves R (liftM outcome : Act α) :=
  fun w => refl w

theorem moves_bind {act : Act α} {f : α → Act β} (hact : Moves R act)
    (hf : ∀ a, Moves R (f a)) : Moves R (act >>= f) := by
  intro w
  have hfirst := hact w
  rw [exec_bind]
  cases hexec : exec act w with
  | mk outcome after =>
      rw [hexec] at hfirst
      cases outcome with
      | ok a => exact IsTrans.trans _ _ _ hfirst (hf a after)
      | error e => exact hfirst

theorem moves_tryCatch {act : Act α} {f : Error → Act α} (hact : Moves R act)
    (hf : ∀ e, Moves R (f e)) : Moves R (tryCatch act f) := by
  intro w
  have hfirst := hact w
  rw [exec_tryCatch]
  cases hexec : exec act w with
  | mk outcome after =>
      rw [hexec] at hfirst
      cases outcome with
      | ok a => exact hfirst
      | error e => exact IsTrans.trans _ _ _ hfirst (hf e after)

end Moves

/-! ## Properties of what is returned -/

/-- Whatever the activity returns satisfies `P`. -/
def Returns (P : α → Prop) (act : Act α) : Prop :=
  ∀ w a after, act.exec w = (.ok a, after) → P a

theorem returns_throw {P : α → Prop} (e : Error) : Returns P (throw e : Act α) := by
  intro w a after hexec
  cases hexec

theorem returns_lift {P : α → Prop} {outcome : Except Error α}
    (houtcome : ∀ a, outcome = .ok a → P a) : Returns P (liftM outcome : Act α) := by
  intro w a after hexec
  rw [exec_lift, Prod.mk.injEq] at hexec
  exact houtcome a hexec.1

theorem returns_bind {P : β → Prop} {act : Act α} {f : α → Act β}
    (hf : ∀ a, Returns P (f a)) : Returns P (act >>= f) := by
  intro w b last hexec
  rw [exec_bind] at hexec
  cases hact : exec act w with
  | mk outcome after =>
      rw [hact] at hexec
      cases outcome with
      | ok a => exact hf a after b last hexec
      | error e => cases hexec

theorem returns_tryCatch {P : α → Prop} {act : Act α} {f : Error → Act α}
    (hact : Returns P act) (hf : ∀ e, Returns P (f e)) :
    Returns P (tryCatch act f) := by
  intro w a last hexec
  rw [exec_tryCatch] at hexec
  cases hfirst : exec act w with
  | mk outcome after =>
      rw [hfirst] at hexec
      cases outcome with
      | ok b => exact hact w a last (hfirst.trans hexec)
      | error e => exact hf e after a last hexec

end StoreAdmin.Act
