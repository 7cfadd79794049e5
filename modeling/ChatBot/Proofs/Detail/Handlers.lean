/-
  ChatBot.Proofs.Detail.Handlers — handlers that pass errors on.

  That programs are alike is asked of every handler, and these are handlers of which it
  holds. A scripted one passes on every error it gets, so two scripts that differ in the
  detail of the errors they raise have programs that are alike (`Script.handler_alike`).
  None of the commands of the demonstration bot reads the text of an error, so a bot with
  these commands is a copy of itself (`Demo.bot_alike`).
-/
import ChatBot.Demo.Commands
import ChatBot.Proofs.Detail.Runs
import ChatBot.Proofs.Registry.History
import ChatBot.Script

namespace ChatBot

/-! ## Scripts -/

namespace Script

inductive Action.Alike : Action → Action → Prop
  | refl (action : Action) : Alike action action
  | fail {e e' : CommandError} : e.Alike e' → Alike (.fail e) (.fail e')

theorem Action.program_alike (stage : String) (ctx : Context) {a b : Action} (h : a.Alike b) {rest rest' : Program}
    (hrest : rest.Alike rest') : (a.program stage ctx rest).Alike (b.program stage ctx rest') := by
  cases h with
  | fail he => exact .fail he
  | refl =>
    cases a with
    | reply text => exact Program.reply_alike ctx _ fun sent => .note _ hrest
    | send text footer => exact Program.reply_alike ctx _ fun _ => hrest
    | echoNumber argument => exact Program.reply_alike ctx _ fun _ => hrest
    | fail error => exact .fail rfl
    | sleep milliseconds => exact .sleep _ hrest
    | noteVariation spelling => exact .note _ hrest
    | noteContext => exact .note _ hrest
    | mentions options =>
      exact Program.withMentions_alike options fun m => .note _ (Program.reply_alike ctx _ fun _ => hrest)
    | startTyping channel => exact .startTyping _ fun _ _ _ => hrest

theorem program_alike (stage : String) (ctx : Context) {as bs : List Action} (h : List.Forall₂ Action.Alike as bs) :
    (program stage as ctx).Alike (program stage bs ctx) := by
  induction h with
  | nil => exact .done
  | cons hab _ ih => exact Action.program_alike stage ctx hab ih

/-- Scripts that differ in the detail of the errors they raise. -/
theorem handler_alike {prerun prerun' run run' : List Action} (hprerun : List.Forall₂ Action.Alike prerun prerun')
    (hrun : List.Forall₂ Action.Alike run run') (part : Handler.Part) (ctx : Context) :
    ((handler prerun run).program part ctx).Alike ((handler prerun' run').program part ctx) := by
  cases part with
  | prerun => exact program_alike "prerun" ctx hprerun
  | run => exact program_alike "run" ctx hrun

end Script

/-! ## The demonstration bot -/

namespace Handler

/-- A handler that passes on the errors it gets. -/
def PassesOn (h : Handler) : Prop := ∀ part ctx, (h.program part ctx).Alike (h.program part ctx)

theorem passesOn_ofRun {run : Context → Program} (h : ∀ ctx, (run ctx).Alike (run ctx)) : (ofRun run).PassesOn := by
  intro part ctx
  cases part with
  | prerun => exact .done
  | run => exact h ctx

end Handler

/-- A command is a copy of itself when its handler passes errors on, and its targets do. -/
theorem Command.alike_self {c : Command} (hhandler : c.handler.PassesOn)
    (htargets : ∀ d ∈ c.delegates, d.2.Alike d.2) : c.Alike c := by
  have hself : List.Forall₂ (fun x y => x.1 = y.1 ∧ x.2.Alike y.2) c.delegates c.delegates :=
    List.forall₂_same.mpr fun d hd => ⟨rfl, htargets d hd⟩
  exact .intro rfl rfl rfl rfl hhandler (hself.imp fun _ _ h => h.1) fun p hp => (List.forall₂_zip hself hp).2

namespace Demo

theorem scrobbles_passesOn : scrobbles.handler.PassesOn :=
  Handler.passesOn_ofRun fun _ => Program.withMentions_alike _ fun _ => Program.say_alike _ _

theorem rank_passesOn : rank.handler.PassesOn :=
  Handler.passesOn_ofRun fun _ => Program.withMentions_alike _ fun _ => Program.say_alike _ _

theorem cover_passesOn : cover.handler.PassesOn := by
  refine Handler.passesOn_ofRun fun ctx => ?_
  unfold runCover
  split
  · exact Program.say_alike _ _
  · exact .fail rfl

theorem runRecent_passesOn : (Handler.ofRun runRecent).PassesOn :=
  Handler.passesOn_ofRun fun _ => Program.say_alike _ _

theorem reacts_passesOn : reacts.handler.PassesOn := by
  refine Handler.passesOn_ofRun fun ctx => ?_
  unfold runReacts
  split
  · exact .fail rfl
  · exact Program.say_alike _ _

theorem runRating_passesOn (action : String) : (Handler.ofRun (runRating action)).PassesOn :=
  Handler.passesOn_ofRun fun _ => Program.say_alike _ _

theorem goBack_passesOn : goBack.handler.PassesOn := by
  refine Handler.passesOn_ofRun fun ctx => ?_
  unfold runGoBack
  split
  · exact Program.say_alike _ _
  · exact .fail rfl

theorem login_passesOn : login.handler.PassesOn := by
  refine Handler.passesOn_ofRun fun ctx => ?_
  unfold runLogin
  split
  · exact .fail rfl
  · exact .keepIdentity _ (Program.say_alike _ _)

theorem applyToggle_alike (t : Toggle) (ctx : Context) (target : CommandInfo) :
    (applyToggle t ctx target).Alike (applyToggle t ctx target) := by
  cases t with
  | disable => exact .disable _ _ _ (Program.say_alike _ _)
  | enable =>
    refine .enable _ _ fun was => ?_
    cases was with
    | true => exact Program.say_alike _ _
    | false => exact Program.say_alike _ _

theorem toggle_passesOn (cell : Cell) (t : Toggle) : (toggle cell t).handler.PassesOn := by
  intro part ctx
  cases part with
  | prerun =>
    show (checkServer ctx).Alike (checkServer ctx)
    unfold checkServer
    split
    · exact .fail rfl
    · exact .done
  | run =>
    cases cell with
    | empty => exact .fail rfl
    | filled =>
      refine .lookup _ fun found => ?_
      cases found with
      | none => exact .fail rfl
      | some target =>
        dsimp only
        split
        · exact .fail rfl
        · exact applyToggle_alike t ctx target

/-- A command with nobody to hand over to. -/
theorem alike_alone {c : Command} (h : c.handler.PassesOn) (hnobody : c.delegates = []) : c.Alike c :=
  Command.alike_self h (by simp [hnobody])

theorem reacts_alike : reacts.Alike reacts := by
  refine Command.alike_self reacts_passesOn fun d hd => ?_
  obtain rfl : d = (wantsClear, reactsClear) := List.mem_singleton.mp hd
  exact alike_alone (Handler.passesOn_ofRun fun _ => Program.say_alike _ _) rfl

theorem rateYourMusic_alike : rateYourMusic.Alike rateYourMusic where
  command := alike_alone (runRating_passesOn _) rfl
  children := .cons (alike_alone (runRating_passesOn _) rfl) <| .cons (alike_alone (runRating_passesOn _) rfl) <|
    .cons (alike_alone (runRating_passesOn _) rfl) .nil
  defaultChild := rfl
  direct := rfl
  abbreviationMin := rfl

theorem nodes_alike (cell : Cell) : List.Forall₂ Node.Alike (nodes cell) (nodes cell) :=
  .cons (.leaf (alike_alone scrobbles_passesOn rfl)) <|
  .cons (.leaf (alike_alone rank_passesOn rfl)) <|
  .cons (.leaf (alike_alone cover_passesOn rfl)) <|
  .cons (.leaf (alike_alone runRecent_passesOn rfl)) <|
  .cons (.leaf reacts_alike) <|
  .cons (.parent rateYourMusic_alike) <|
  .cons (.leaf (alike_alone goBack_passesOn rfl)) <|
  .cons (.leaf (alike_alone login_passesOn rfl)) <|
  .cons (.leaf (alike_alone (toggle_passesOn cell .disable) rfl)) <|
  .cons (.leaf (alike_alone (toggle_passesOn cell .enable) rfl)) <|
  .cons (.leaf (alike_alone runRecent_passesOn rfl)) .nil

/-- Whatever its settings and its hooks, the demonstration bot is a copy of itself. -/
theorem bot_alike {cell : Cell} {r : Registry} (h : registry cell = .ok r) (config : Config) (hooks : List Hook) :
    (Bot.mk r config hooks).Alike (Bot.mk r config hooks) := by
  refine ⟨?_, rfl, rfl⟩
  show List.Forall₂ Node.Alike r.nodes r.nodes
  rw [(Registry.ofNodes_eq_ok h).2]
  exact nodes_alike cell

end Demo

end ChatBot
