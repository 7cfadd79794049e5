/-
  ChatBot.Proofs.Detail.Runs — no detail of an internal error is shown in the chat.

  Two copies of a bot get the same messages. The services and the chat fail both at the same
  calls, for reasons that differ in their detail, and so do the errors that the programs of
  their commands raise. The copies go step by step through states that are alike: every step
  of a run does (`execute_alike`), and so does every step of many runs side by side
  (`Traffic.after_alike`). So both show the same in the chat, count the same, and end with
  the same outcomes up to the detail of their errors (`ofEvents_hides_detail`).
-/
import ChatBot.Pipeline.Traffic
import ChatBot.Proofs.Detail.Commands

namespace ChatBot

open Steps

/-- The programs of the commands differ in the detail of their errors, and nothing else does. -/
structure Bot.Alike (bot bot' : Bot) : Prop where
  registry : bot.registry.Alike bot'.registry
  config : bot.config = bot'.config
  hooks : bot.hooks = bot'.hooks

namespace Outcome

def withoutDetail : Outcome → Outcome
  | .failed e => .failed e.withoutDetail
  | .delegated target inner => .delegated target inner.withoutDetail
  | o => o

def Alike (o o' : Outcome) : Prop := o.withoutDetail = o'.withoutDetail

end Outcome

/-- How two messages ended, up to the detail of errors. -/
abbrev ResultsAlike (x y : Except OutputError Outcome) : Prop := Agree OutputError.Alike Outcome.Alike x y

variable {bot bot' : Bot}

/-! ## One step of a run -/

/-- A program sees nothing but the answers that it gets, and these are alike. -/
theorem Program.exec_alike (hbot : bot.Alike bot') (ctx : Context) {p q : Program} (h : p.Alike q) :
    ActsAlike AnswersAlike (p.exec bot ctx) (q.exec bot' ctx) := by
  induction h with
  | done => exact .done (.ok rfl)
  | fail he => exact .done (.error he)
  | send channel message _ ih => exact matches_bind (State.send_alike channel message) fun x y hxy => ih x y hxy
  | startTyping channel _ ih => exact matches_bind (State.startTyping_alike channel) fun x y hxy => ih x y hxy
  | resolve options _ ih =>
    exact matches_bind matches_get fun s t hst => ih _ _ (Resolver.resolve_alike hst.stores _ _ _ _)
  | sleep milliseconds _ ih => exact matches_bind (State.advance_alike milliseconds) fun _ _ _ => ih
  | lookup name _ ih =>
    rw [exec, exec, Registry.lookup_info_eq hbot.registry]
    exact ih _
  | keepIdentity identity _ ih =>
    refine matches_bind (matches_modify fun s t hst => ?_) fun _ _ _ => ih
    exact State.mapStores_alike hst
      { hst.stores with identities := congrArg (·.insert identity) hst.stores.identities }
  | disable guild command devOnly _ ih =>
    exact matches_bind (matches_modify fun s t hst => State.mapGates_alike hst _) fun _ _ _ => ih
  | enable guild command _ ih =>
    refine matches_bind (P := Eq) (matches_modifyGet fun s t hst => ⟨?_, ?_⟩) ?_
    · exact congrArg (fun g => (g.enable guild command).1) hst.stores.gates
    · exact State.mapGates_alike hst fun g => (g.enable guild command).2
    · rintro was _ rfl
      exact ih was
  | note entry _ ih => exact matches_bind (State.note_alike entry) fun _ _ _ => ih

namespace Bot

theorem startHooks_alike (hbot : bot.Alike bot') (ctx : Context) :
    ActsAlike Eq (bot.startHooks ctx) (bot'.startHooks ctx) := by
  refine matches_modify fun s t h => { h with started := ?_ }
  have hhooks : bot.allHooks s.stores = bot'.allHooks t.stores := by
    rw [allHooks, allHooks, hbot.config, hbot.hooks, h.stores.analytics]
  dsimp only
  rw [hhooks, h.draw, h.started]

theorem arrangeReaction_alike (hbot : bot.Alike bot') (ctx : Context) (after : Option Nat) :
    ActsAlike Eq (bot.arrangeReaction ctx after) (bot'.arrangeReaction ctx after) := by
  unfold arrangeReaction
  rw [hbot.config]
  split
  · exact .done rfl
  · refine matches_modifyGet fun s t h => ⟨congrArg some h.nextReaction, ?_⟩
    refine { h with reactions := ?_, nextReaction := congrArg (· + 1) h.nextReaction }
    dsimp only
    rw [h.nextReaction, h.clock, h.reactions]

theorem setUp_alike (hbot : bot.Alike bot') {c d : Command} (hafter : c.loadingAfter = d.loadingAfter) (ctx : Context) :
    ActsAlike Eq (bot.setUp c ctx) (bot'.setUp d ctx) := by
  refine matches_bind (State.startTyping_alike _) fun _ _ _ => ?_
  rw [hafter]
  refine matches_bind (arrangeReaction_alike hbot ctx _) ?_
  rintro reaction _ rfl
  exact matches_bind (startHooks_alike hbot ctx) fun _ _ _ => .done rfl

theorem takeDown_alike (hbot : bot.Alike bot') (ctx : Context) (reaction : Option Nat) :
    ActsAlike Eq (takeDown ctx bot reaction) (takeDown ctx bot' reaction) := by
  unfold takeDown
  rw [hbot.config]
  split
  · exact .done rfl
  · rename_i number
    refine matches_bind State.settle_alike fun _ _ _ => ?_
    refine matches_bind (P := Eq) (matches_modifyGet fun s t h => ⟨congrArg (·.get? number) h.reactions, ?_⟩) ?_
    · exact { h with reactions := congrArg (·.erase number) h.reactions }
    · rintro reaction _ rfl
      split
      · exact matches_bind (State.unreact_alike _ _) fun _ _ _ => .done rfl
      · exact .done rfl

theorem askGate_alike (hbot : bot.Alike bot') (ctx : Context) :
    ActsAlike AnswersAlike (bot.askGate ctx) (bot'.askGate ctx) := by
  unfold askGate
  rw [hbot.config]
  refine matches_bind matches_get fun s t h => ?_
  have hverdict := Gate.check_alike h.stores bot'.config.developers ctx.command ctx.parent ctx.message
  dsimp only
  generalize Gate.check bot'.config.developers s.stores ctx.command ctx.parent ctx.message = x at hverdict ⊢
  generalize Gate.check bot'.config.developers t.stores ctx.command ctx.parent ctx.message = y at hverdict ⊢
  cases hverdict with
  | ok hab => exact .done (.ok hab)
  | error hed => exact matches_bind (State.count_alike _) fun _ _ _ => .done (.error hed)

theorem withArgs_alike {c d : Command} (hschema : c.schema = d.schema) (ctx : Context) :
    ActsAlike Eq (withArgs c ctx) (withArgs d ctx) := by
  refine matches_bind matches_get fun s t h => .done ?_
  rw [Context.reading, Context.reading, hschema, h.today]

/-- The user is told of alike errors in the same words. -/
theorem tell_alike (hbot : bot.Alike bot') (ctx : Context) {e e' : CommandError} (he : e.Alike e') :
    ActsAlike State.ChatAnswers (bot.tell ctx e) (bot'.tell ctx e') := by
  have hsent : ∀ message, ActsAlike State.ChatAnswers
      (do let answer ← State.send ctx.message.channelId message; return answer.map fun _ => ())
      (do let answer ← State.send ctx.message.channelId message; return answer.map fun _ => ()) := by
    intro message
    refine matches_bind (State.send_alike _ _) fun x y hxy => .done ?_
    exact hxy.map fun _ _ _ => rfl
  unfold tell
  rw [hbot.config, ← he.isClientFacing_eq, ← he.isSilent_eq]
  refine matches_bind (State.count_alike _) fun _ _ _ => matches_bind (State.countFor_alike _) fun _ _ _ => ?_
  split
  · exact matches_bind (State.report_alike rfl) fun _ _ _ => hsent _
  rename_i hfacing
  split
  · exact .done (.ok rfl)
  · rename_i hsilent
    rw [he.eq_of_told (by simpa using hfacing) (by simpa using hsilent)]
    exact hsent _

theorem failWith_alike (hbot : bot.Alike bot') (ctx : Context) {e e' : CommandError} (he : e.Alike e') :
    ActsAlike ResultsAlike (bot.failWith ctx e) (bot'.failWith ctx e') :=
  matches_bind (tell_alike hbot ctx he) fun _ _ hxy =>
    .done (hxy.map fun _ _ _ => congrArg Outcome.failed he)

theorem leave_alike (hbot : bot.Alike bot') (ctx : Context) (reaction : Option Nat) {x y : Except OutputError Outcome}
    (h : ResultsAlike x y) : ActsAlike ResultsAlike (bot.leave ctx reaction x) (bot'.leave ctx reaction y) := by
  cases h with
  | ok ho => exact matches_bind (takeDown_alike hbot ctx reaction) fun _ _ _ => .done (.ok ho)
  | error he => exact .done (.error he)

theorem call_alike (hbot : bot.Alike bot') (ctx : Context) {c d : Command} (part : Handler.Part)
    (h : (c.handler.program part ctx).Alike (d.handler.program part ctx)) :
    ActsAlike AnswersAlike (bot.call part c ctx) (bot'.call part d ctx) := by
  refine matches_bind (matches_tell _ _) fun _ _ _ => matches_bind (Program.exec_alike hbot ctx h) fun _ _ hxy => ?_
  exact matches_bind (matches_tell _ _) fun _ _ _ => .done hxy

theorem runHandler_alike (hbot : bot.Alike bot') (ctx : Context) {c d : Command} (hinfo : c.info = d.info)
    (hrules : c.rules = d.rules)
    (h : ∀ part ctx, (c.handler.program part ctx).Alike (d.handler.program part ctx)) :
    ActsAlike AnswersAlike (bot.runHandler c ctx) (bot'.runHandler d ctx) := by
  unfold runHandler
  rw [Command.name, Command.name, hinfo, hrules]
  refine matches_bind (State.count_alike _) fun _ _ _ => matches_bind (State.countFor_alike _) fun _ _ _ => ?_
  split
  · exact .done (.error rfl)
  · refine matches_bind (call_alike hbot ctx .prerun (h _ _)) fun x y hxy => ?_
    cases hxy with
    | ok _ => exact call_alike hbot ctx .run (h _ _)
    | error he => exact .done (.error he)

/-! ## Runs -/

theorem execute_alike (hbot : bot.Alike bot') {c d : Command} (h : c.Alike d) (ctx : Context) :
    ActsAlike ResultsAlike (bot.execute c ctx) (bot'.execute d ctx) := by
  induction h generalizing ctx with
  | @intro c d info schema rules loadingAfter programs conditions targets ih =>
    rw [execute, execute, hbot.config]
    split
    · exact matches_bind (State.count_alike _) fun _ _ _ => .done (.ok rfl)
    refine matches_bind (setUp_alike hbot loadingAfter ctx) ?_
    rintro reaction _ rfl
    refine matches_bind (askGate_alike hbot ctx) fun x y hverdict => ?_
    cases hverdict with
    | error he => exact matches_bind (failWith_alike hbot ctx he) fun _ _ hxy => leave_alike hbot ctx reaction hxy
    | ok _ =>
      refine matches_bind (withArgs_alike schema ctx) ?_
      rintro ctx _ rfl
      have hrule := Command.delegateFor_alike conditions ctx.args
      split
      · rename_i x hx
        split
        · rename_i y hy
          rw [hx, hy] at hrule
          cases hrule with
          | some hxy =>
            have htarget : x.2.Alike y.2 := targets (x, y) hxy.2
            refine matches_bind (State.count_alike _) fun _ _ _ => ?_
            rw [htarget.info, Command.name, Command.name, htarget.info]
            refine matches_bind (ih (x, y) hxy.2 _) fun r r' hr => leave_alike hbot ctx reaction ?_
            exact hr.map fun o o' ho => congrArg (Outcome.delegated _) ho
        · rename_i hy
          rw [hx, hy] at hrule
          cases hrule
      · rename_i hx
        split
        · rename_i y hy
          rw [hx, hy] at hrule
          cases hrule
        · refine matches_bind (runHandler_alike hbot ctx info rules programs) fun r r' hr => ?_
          cases hr with
          | ok _ => exact matches_bind (.done (.ok rfl)) fun _ _ ho => leave_alike hbot ctx reaction ho
          | error he => exact matches_bind (failWith_alike hbot ctx he) fun _ _ ho => leave_alike hbot ctx reaction ho

theorem announceUnknown_alike (hbot : bot.Alike bot') (message : InboundMessage) (text : String) (e : CommandError) :
    ActsAlike ResultsAlike (bot.announceUnknown message text e) (bot'.announceUnknown message text e) := by
  have htext : bot.unknownCommandText text e = bot'.unknownCommandText text e := by
    rw [unknownCommandText, unknownCommandText, hbot.config]
    simp only [Registry.suggest_eq hbot.registry]
  unfold announceUnknown
  rw [hbot.config, htext]
  split
  · exact matches_bind (State.send_alike _ _) fun x y hxy => .done (hxy.map fun _ _ _ => rfl)
  · exact .done (.ok rfl)

theorem handle_alike (hbot : bot.Alike bot') (message : InboundMessage) :
    ActsAlike ResultsAlike (bot.handle message) (bot'.handle message) := by
  have htext : bot.invocationText message = bot'.invocationText message := by
    rw [invocationText, invocationText, hbot.config]
  unfold handle
  rw [htext]
  cases bot'.invocationText message with
  | none => exact .done (.ok rfl)
  | some text =>
    dsimp only
    have hresolve := Registry.resolve_alike hbot.registry text
    generalize bot.registry.resolve text = x at hresolve ⊢
    generalize bot'.registry.resolve text = y at hresolve ⊢
    cases hresolve with
    | error he => exact he ▸ announceUnknown_alike hbot message text _
    | @ok found found' hfound =>
      have hctx : Context.ofResolution bot.config message found = .ofResolution bot'.config message found' := by
        rw [Context.ofResolution, Context.ofResolution, hbot.config, hfound.node.info, hfound.node.parent_info,
          hfound.variation, hfound.invocation]
      refine matches_bind (State.count_alike _) fun _ _ _ => ?_
      rw [hctx]
      exact execute_alike hbot hfound.node.command _

end Bot

/-! ## Runs side by side -/

namespace Traffic

/-- The same happens to both, or others do to both what keeps states alike. -/
inductive Event.Alike : Event → Event → Prop
  | arrive (message : InboundMessage) : Alike (.arrive message) (.arrive message)
  | go (run : Nat) : Alike (.go run) (.go run)
  | interfere {other other' : Interference} :
    (∀ s t, State.Alike s t → (other.change s).Alike (other'.change t)) → Alike (.interfere other) (.interfere other')

structure Alike (t u : Traffic) : Prop where
  state : t.state.Alike u.state
  runs : List.Forall₂ (ActsAlike ResultsAlike) t.runs u.runs

theorem after_alike (hbot : bot.Alike bot') {t u : Traffic} (h : t.Alike u) {e e' : Event} (he : e.Alike e') :
    (t.after bot e).Alike (u.after bot' e') := by
  cases he with
  | arrive message =>
    exact ⟨h.state, List.rel_append h.runs (.cons (Bot.handle_alike hbot message) .nil)⟩
  | interfere hother => exact ⟨hother _ _ h.state, h.runs⟩
  | go n =>
    have hrun := h.runs.getElem? n
    simp only [after]
    generalize t.runs[n]? = x at hrun ⊢
    generalize u.runs[n]? = y at hrun ⊢
    cases hrun with
    | none => exact h
    | @some x y hxy =>
      cases hxy with
      | done _ => exact h
      | step hchange hnext => exact ⟨hchange _ _ h.state, h.runs.set n (hnext _ _ h.state)⟩
      | mark hnext => exact ⟨h.state, h.runs.set n hnext⟩

theorem ofEvents_alike (hbot : bot.Alike bot') {s s' : State} (hs : s.Alike s') {events events' : List Event}
    (he : List.Forall₂ Event.Alike events events') : (ofEvents bot s events).Alike (ofEvents bot' s' events') := by
  have hfold : ∀ t u : Traffic, t.Alike u → (events.foldl (after bot) t).Alike (events'.foldl (after bot') u) := by
    induction he with
    | nil => exact fun t u h => h
    | cons hee' _ ih => exact fun t u h => ih _ _ (after_alike hbot h hee')
  exact hfold _ _ ⟨hs, .nil⟩

/-- When two copies of a bot, their services, the chat and what others do differ in the
    detail of errors, and in nothing else, then both copies show the same in the chat,
    count the same, and each message has ended in both with the same outcome up to that
    detail, or in neither. -/
theorem ofEvents_hides_detail (hbot : bot.Alike bot') {s s' : State} (hs : s.Alike s') {events events' : List Event}
    (he : List.Forall₂ Event.Alike events events') :
    (ofEvents bot s events).state.output.events = (ofEvents bot' s' events').state.output.events ∧
      (ofEvents bot s events).state.metrics = (ofEvents bot' s' events').state.metrics ∧
      ∀ n, Option.Rel ResultsAlike ((ofEvents bot s events).result? n) ((ofEvents bot' s' events').result? n) := by
  have h := ofEvents_alike hbot hs he
  refine ⟨h.state.output.events, h.state.metrics, fun n => ?_⟩
  have hrun := h.runs.getElem? n
  unfold result?
  generalize (ofEvents bot s events).runs[n]? = x at hrun ⊢
  generalize (ofEvents bot' s' events').runs[n]? = y at hrun ⊢
  cases hrun with
  | none => exact .none
  | some hxy => exact hxy.result?

/-! ### Two copies whose failures tell different addresses -/

namespace Copies

/-- Replies, and then fails for a reason of its own. -/
def stats (detail : String) : Command :=
  .simple (.make "stats" "stats")
    (.ofRun fun ctx => .reply ctx ⟨"counting", none⟩ fun _ => .fail (.unknown ("no answer from " ++ detail)))

def copy (detail : String) : Bot := ⟨⟨[.leaf (stats detail)], .empty, []⟩, Config.standard, []⟩

def message : InboundMessage := ⟨"m", "!stats", ⟨"1", "joe", none, false⟩, some "g", "c", [], none, []⟩

/-- The gate's records cannot be read. -/
def start (detail : String) : State :=
  .initial (Stores.empty.setOutage .disabledStatus (some (.unavailable "gates" detail))) 0

def recovery : Interference := ⟨fun s => s.mapStores (·.setOutage .disabledStatus none), fun _ => rfl⟩

/-- The chat begins to refuse typing. -/
def refusal (detail : String) : Interference :=
  ⟨fun s => { s with output := s.output.setRefusal .typing (some detail) }, fun _ => rfl⟩

/-- The message comes again when the records can be read. -/
def events (detail : String) : List Event :=
  .arrive message :: List.replicate 20 (.go 0) ++ .interfere recovery :: .interfere (refusal detail) ::
    .arrive message :: List.replicate 20 (.go 1)

def traffic (detail : String) : Traffic := ofEvents (copy detail) (start detail) (events detail)

theorem copy_alike (detail detail' : String) : (copy detail).Alike (copy detail') := by
  have hstats : (stats detail).Alike (stats detail') := by
    refine .intro rfl rfl rfl rfl (fun part ctx => ?_) .nil (by simp [stats, Command.simple])
    cases part with
    | prerun => exact .done
    | run => exact Program.reply_alike ctx _ fun _ => .fail rfl
  exact ⟨.cons (.leaf hstats) .nil, rfl, rfl⟩

theorem start_alike (detail detail' : String) : (start detail).Alike (start detail') := by
  have hstores : Stores.empty.Alike Stores.empty := ⟨rfl, rfl, rfl, rfl, fun _ => .none⟩
  have houtage : Option.Rel ServiceError.Alike (some (.unavailable "gates" detail))
      (some (.unavailable "gates" detail')) := .some rfl
  exact ⟨Stores.setOutage_alike hstores .disabledStatus houtage, ⟨rfl, rfl, fun _ => rfl⟩, ⟨rfl, rfl⟩,
    rfl, rfl, rfl, rfl, rfl, rfl, rfl, rfl, rfl⟩

theorem events_alike (detail detail' : String) : List.Forall₂ Event.Alike (events detail) (events detail') := by
  have hgo : ∀ k n, List.Forall₂ Event.Alike (List.replicate k (.go n)) (List.replicate k (.go n)) :=
    fun k n => List.forall₂_same.mpr fun e he => (List.eq_of_mem_replicate he) ▸ .go n
  have hrecovery : Event.Alike (.interfere recovery) (.interfere recovery) :=
    .interfere fun s t h => { h with stores := Stores.setOutage_alike h.stores .disabledStatus .none }
  have hrefusal : Event.Alike (.interfere (refusal detail)) (.interfere (refusal detail')) :=
    .interfere fun s t h => { h with output := Output.setRefusal_alike h.output .typing rfl }
  exact List.rel_append (.cons (.arrive message) (hgo 20 0))
    (.cons hrecovery (.cons hrefusal (.cons (.arrive message) (hgo 20 1))))

end Copies

open Copies in
/-- Both messages fail in both copies, and none of the addresses is shown. -/
theorem ofEvents_hides_detail_stats :
    (traffic "10.0.0.1").state.output.events = (traffic "10.0.0.2").state.output.events ∧
      (traffic "10.0.0.1").state.metrics = (traffic "10.0.0.2").state.metrics ∧
      (∀ n, Option.Rel ResultsAlike ((traffic "10.0.0.1").result? n) ((traffic "10.0.0.2").result? n)) ∧
      (traffic "10.0.0.1").state.output.sentTexts =
        [Config.standard.unknownError, "counting", Config.standard.unknownError] ∧
      (traffic "10.0.0.1").result? 1 = some (.ok (.failed (.unknown "no answer from 10.0.0.1"))) := by
  unfold traffic
  obtain ⟨hshown, hcounted, hended⟩ := ofEvents_hides_detail (copy_alike "10.0.0.1" "10.0.0.2")
    (start_alike "10.0.0.1" "10.0.0.2") (events_alike "10.0.0.1" "10.0.0.2")
  set_option maxRecDepth 2000 in
  refine ⟨hshown, hcounted, hended, ?_, ?_⟩
  · with_unfolding_all decide
  · with_unfolding_all decide

end Traffic

end ChatBot
