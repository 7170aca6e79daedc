import StoreAdmin.Proofs.Session.Login

/-!
# What an attempt can do

An attempt sends one message with the token that is kept, and the answer to it
decides how the call goes on.  All ways in which it can go are listed once.
Only a complete answer by 401 ends in `unauthorized`, and only then the token
is touched.
-/

namespace StoreAdmin

/-- What an answer to a call comes to. -/
def Response.judge (response : Response) (format : Format) : Except Error Payload :=
  match Answer.checkCall response.status (response.format?.getD format) response.content with
  | .ok () => .ok { format := response.format?.getD format, body := response.content }
  | .error e => .error e

theorem Response.judge_eq_unauthorized_iff (response : Response) (format : Format) :
    response.judge format = .error .unauthorized ↔ response.status = Status.refused := by
  rw [← Answer.checkCall_eq_unauthorized_iff response.status
    (response.format?.getD format) response.content]
  unfold judge
  cases Answer.checkCall response.status (response.format?.getD format) response.content with
  | ok _ => simp
  | error e => simp

/-- The end of an attempt, which judges the answer, leaves the world alone. -/
theorem Response.exec_judge (response : Response) (format : Format) (w : World) :
    Act.exec (do
        liftM (Answer.checkCall response.status (response.format?.getD format)
          response.content)
        pure { format := response.format?.getD format, body := response.content }) w =
      (response.judge format, w) := by
  rw [Act.exec_bind, Act.exec_lift]
  unfold judge
  cases Answer.checkCall response.status (response.format?.getD format)
    response.content <;> rfl

/-- The world in which a token is no longer kept. -/
def World.forget (token : String) (w : World) : World :=
  if w.token = token then { w with token := "" } else w

namespace World

variable (token : String) (w : World)

theorem forget_token : (w.forget token).token = if w.token = token then "" else w.token := by
  unfold forget
  split <;> rfl

@[simp]
theorem forget_turns : (w.forget token).turns = w.turns := by
  unfold forget
  split <;> rfl

@[simp]
theorem forget_later : (w.forget token).later = w.later := by
  unfold forget
  split <;> rfl

@[simp]
theorem forget_cancelled : (w.forget token).cancelled = w.cancelled := by
  unfold forget
  split <;> rfl

@[simp]
theorem forget_log : (w.forget token).log = w.log := by
  unfold forget
  split <;> rfl

end World

namespace Client

variable (c : Client) (r : Request) (url : Url) (format : Format)

/-- The message of an attempt that starts in a world. -/
def messageIn (w : World) : Message :=
  c.message r url format w.token

/-- The world after an attempt that was answered by 401. -/
def afterRefusal (w : World) : World :=
  let after := w.afterExchange .call (c.messageIn r url format w)
  if c.login.isSome then after.forget w.token else after

/-- The outcomes of an attempt, each with what leads to it and the world that
it leaves behind. -/
inductive Attempted (w : World) : Except Error Payload → World → Prop
  | cancelled (hcancelled : c.cancellable = true ∧ w.cancelled = true) :
      Attempted w (.error .cancelled) w
  | unsendable (fault : TransportFault)
      (hgoing : ¬(c.cancellable = true ∧ w.cancelled = true))
      (hfault : (c.messageIn r url format w).fault? = some fault) :
      Attempted w (.error (.transport fault)) w
  | refused (response : Response)
      (hgoing : ¬(c.cancellable = true ∧ w.cancelled = true))
      (hsent : (c.messageIn r url format w).fault? = none)
      (hreply : w.nextTurn.1.reply = .answer response)
      (hstatus : response.status = Status.refused) :
      Attempted w (.error .unauthorized) (c.afterRefusal r url format w)
  | judged (response : Response)
      (hgoing : ¬(c.cancellable = true ∧ w.cancelled = true))
      (hsent : (c.messageIn r url format w).fault? = none)
      (hreply : w.nextTurn.1.reply = .answer response)
      (hstatus : response.status ≠ Status.refused) :
      Attempted w (response.judge format)
        (w.afterExchange .call (c.messageIn r url format w))
  | cutShort (response : Response)
      (hgoing : ¬(c.cancellable = true ∧ w.cancelled = true))
      (hsent : (c.messageIn r url format w).fault? = none)
      (hreply : w.nextTurn.1.reply = .cutShort response) :
      Attempted w (.error (.transport .incomplete))
        (w.afterExchange .call (c.messageIn r url format w))
  | unanswered (hgoing : ¬(c.cancellable = true ∧ w.cancelled = true))
      (hsent : (c.messageIn r url format w).fault? = none)
      (hreply : w.nextTurn.1.reply = .lost ∨ w.nextTurn.1.reply = .unreachable ∨
        w.nextTurn.1.reply = .silence ∧ c.cancellable = false) :
      Attempted w (.error (exchange.unanswered (c.messageIn r url format w)))
        (w.afterExchange .call (c.messageIn r url format w))
  | interrupted (hgoing : ¬(c.cancellable = true ∧ w.cancelled = true))
      (hsent : (c.messageIn r url format w).fault? = none)
      (hreply : w.nextTurn.1.reply = .silence) (hcancellable : c.cancellable = true) :
      Attempted w (.error .cancelled)
        { w.afterExchange .call (c.messageIn r url format w) with cancelled := true }

/-- An attempt sends its message with the token that is kept, unless the message
cannot be sent at all.  It is refused by a complete answer with status 401 and
by nothing else. -/
def Sends (before : World) (outcome : Except Error Payload) (after : World) : Prop :=
  (∃ fault, (c.messageIn r url format before).fault? = some fault ∧
    outcome = .error (.transport fault) ∧ after = before) ∨
  (after.log = before.log ++
      [.exchange .call (c.messageIn r url format before) before.nextTurn.1.reply] ∧
    (outcome = .error .unauthorized ↔
      ∃ response, before.nextTurn.1.reply = .answer response ∧
        response.status = Status.refused))

-- A case split shall leave the world after an exchange as it is written.
attribute [local irreducible] World.afterExchange

theorem attempted (w : World) :
    c.Attempted r url format w ((c.attempt r url format).exec w).1
      ((c.attempt r url format).exec w).2 := by
  unfold attempt
  rw [Act.exec_bind, checkCancelled_exec]
  by_cases hcancelled : c.cancellable = true ∧ w.cancelled = true
  · rw [if_pos hcancelled]
    exact .cancelled hcancelled
  rw [if_neg hcancelled]
  simp only [Act.exec_bind, Act.exec_get]
  generalize hexchange : (exchange c.cancellable .call _).exec w = result
  have hexchanged := exchanged c.cancellable .call (c.messageIn r url format w) w
  rw [messageIn, hexchange] at hexchanged
  obtain ⟨outcome, after⟩ := result
  cases hexchanged with
  | unsendable fault hfault => exact .unsendable fault hcancelled hfault
  | cutShort response hsent hreply => exact .cutShort response hcancelled hsent hreply
  | unanswered hsent hreply => exact .unanswered hcancelled hsent hreply
  | interrupted hsent hreply hcancellable =>
      exact .interrupted hcancelled hsent hreply hcancellable
  | answered response hsent hreply =>
      by_cases hstatus : response.status = Status.refused
      · have hrefused : Attempted c r url format w (.error .unauthorized)
            (c.afterRefusal r url format w) :=
          .refused response hcancelled hsent hreply hstatus
        have hjudge := (response.judge_eq_unauthorized_iff format).2 hstatus
        unfold afterRefusal at hrefused
        dsimp only
        by_cases hlogin : c.login.isSome
        · rw [if_pos hlogin] at hrefused
          rw [if_pos ⟨hstatus, hlogin⟩, Act.exec_bind, Act.exec_modify]
          dsimp only
          rw [response.exec_judge format, hjudge]
          exact hrefused
        · rw [if_neg hlogin] at hrefused
          rw [if_neg fun h => hlogin h.2, response.exec_judge format, hjudge]
          exact hrefused
      · have hjudged : Attempted c r url format w _ _ :=
          .judged response hcancelled hsent hreply hstatus
        simp only [hstatus, false_and, if_false]
        rw [response.exec_judge format]
        exact hjudged

theorem attempted_of_exec {w after : World} {outcome : Except Error Payload}
    (hattempt : (c.attempt r url format).exec w = (outcome, after)) :
    c.Attempted r url format w outcome after := by
  have hattempted := c.attempted r url format w
  rw [hattempt] at hattempted
  exact hattempted

/-! ## What every attempt leaves alone -/

namespace Attempted

variable {c : Client} {r : Request} {url : Url} {format : Format} {w after : World}
variable {outcome : Except Error Payload}

theorem turns (h : c.Attempted r url format w outcome after) : after.turns <:+ w.turns := by
  cases h with
  | cancelled | unsendable => exact List.suffix_refl w.turns
  | judged | cutShort | unanswered => simp [w.nextTurn_suffix]
  | interrupted => simp [w.nextTurn_suffix]
  | refused =>
      unfold afterRefusal
      split <;> simp [w.nextTurn_suffix]

theorem later (h : c.Attempted r url format w outcome after) : after.later = w.later := by
  cases h with
  | cancelled | unsendable => rfl
  | judged | cutShort | unanswered | interrupted => simp
  | refused =>
      unfold afterRefusal
      split <;> simp

theorem alone (h : c.Attempted r url format w outcome after) (halone : w.Alone) :
    after.Alone :=
  halone.of_suffix h.turns

theorem running (h : c.Attempted r url format w outcome after)
    (hrunning : w.Running c.cancellable) : after.Running c.cancellable := by
  refine hrunning.of_suffix h.turns h.later ?_
  cases h with
  | cancelled | unsendable => rfl
  | judged | cutShort | unanswered => simp
  | interrupted hgoing hsent hreply hcancellable =>
      exact absurd hreply (hrunning.nextTurn hcancellable)
  | refused =>
      unfold afterRefusal
      split <;> simp

/-- An attempt that is not refused keeps the token. -/
theorem token_eq (h : c.Attempted r url format w outcome after)
    (hturn : w.nextTurn.1.replacement = none) (hsettled : outcome ≠ .error .unauthorized) :
    after.token = w.token := by
  cases h with
  | cancelled | unsendable => rfl
  | judged | cutShort | unanswered | interrupted => simp [hturn]
  | refused => exact absurd rfl hsettled

/-- A refused attempt forgets the token that it carried. -/
theorem token_eq_empty (h : c.Attempted r url format w outcome after)
    (hrefused : outcome = .error .unauthorized) (hlogin : c.login.isSome)
    (hturn : w.nextTurn.1.replacement = none) : after.token = "" := by
  cases h with
  | cancelled | unsendable | cutShort | unanswered | interrupted => cases hrefused
  | judged response hgoing hsent hreply hstatus =>
      exact absurd ((response.judge_eq_unauthorized_iff format).1 hrefused) hstatus
  | refused =>
      unfold afterRefusal
      simp [hlogin, World.forget_token, hturn]

/-- An attempt that is not cancelled beforehand sends its message, unless that
cannot be sent at all. -/
theorem sends (h : c.Attempted r url format w outcome after) :
    (c.cancellable = true ∧ w.cancelled = true) ∧ outcome = .error .cancelled ∧ after = w ∨
      c.Sends r url format w outcome after := by
  cases h with
  | cancelled hcancelled => exact .inl ⟨hcancelled, rfl, rfl⟩
  | unsendable fault hgoing hfault => exact .inr (.inl ⟨fault, hfault, rfl, rfl⟩)
  | judged response hgoing hsent hreply hstatus =>
      refine .inr (.inr ⟨by simp, ?_⟩)
      simp [response.judge_eq_unauthorized_iff format, hreply]
  | refused response hgoing hsent hreply hstatus =>
      refine .inr (.inr ⟨?_, by simp [hreply, hstatus]⟩)
      unfold afterRefusal
      split <;> simp
  | cutShort response hgoing hsent hreply =>
      exact .inr (.inr ⟨by simp, by simp [hreply]⟩)
  | interrupted hgoing hsent hreply =>
      exact .inr (.inr ⟨by simp, by simp [hreply]⟩)
  | unanswered hgoing hsent hreply =>
      refine .inr (.inr ⟨by simp, ?_⟩)
      rcases hreply with hreply | hreply | ⟨hreply, -⟩ <;> simp [hreply, exchange.unanswered]

theorem sends_of_going (h : c.Attempted r url format w outcome after)
    (hgoing : ¬(c.cancellable = true ∧ w.cancelled = true)) :
    c.Sends r url format w outcome after := by
  rcases h.sends with ⟨hcancelled, -⟩ | hsends
  · exact absurd hcancelled hgoing
  · exact hsends

/-- Whoever gets an answer by 401 has not been cancelled. -/
theorem going_of_refused (h : c.Attempted r url format w outcome after)
    (hrefused : outcome = .error .unauthorized) :
    ¬(c.cancellable = true ∧ after.cancelled = true) := by
  cases h with
  | cancelled | unsendable | cutShort | unanswered | interrupted => cases hrefused
  | judged response hgoing => simpa using hgoing
  | refused response hgoing =>
      unfold afterRefusal
      split <;> simpa using hgoing

/-- An attempt whose answer was cut short fails, whatever the answer says. -/
theorem of_cutShort {response : Response} (h : c.Attempted r url format w outcome after)
    (hsent : after.log ≠ w.log) (hreply : w.nextTurn.1.reply = .cutShort response) :
    outcome = .error (.transport .incomplete) := by
  cases h with
  | cancelled | unsendable => exact absurd rfl hsent
  | cutShort => rfl
  | refused _ _ _ hanswer | judged _ _ _ hanswer | interrupted _ _ hanswer =>
      rw [hreply] at hanswer
      cases hanswer
  | unanswered _ _ hanswer =>
      rw [hreply] at hanswer
      rcases hanswer with hanswer | hanswer | ⟨hanswer, -⟩ <;> cases hanswer

theorem log_grows (h : c.Attempted r url format w outcome after) : w.log <+: after.log := by
  rcases h.sends with ⟨-, -, rfl⟩ | ⟨fault, -, -, rfl⟩ | ⟨hlog, -⟩
  · exact List.prefix_refl _
  · exact List.prefix_refl _
  · exact ⟨_, hlog.symm⟩

end Attempted
end Client
end StoreAdmin
