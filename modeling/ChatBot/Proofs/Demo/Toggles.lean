/-
  ChatBot.Proofs.Demo.Toggles — what a toggle of the demonstration bot does.

  In a calm state a toggle answers what the records and its first word say (`Toggle.effect`):
  it is refused where it is disabled itself, it needs a name that somebody has, and it leaves
  itself alone. So much for its handler, its run, the message that calls it, and the line
  (`Sound.enter_toggle`).
-/
import ChatBot.Proofs.Demo.Sessions
import ChatBot.Proofs.Invocation
import ChatBot.Proofs.Pipeline.Effects
import ChatBot.Proofs.Registry.Reachable

namespace ChatBot

open Steps Text

/-! ## What a toggle does -/

namespace Demo

/-- The id of the toggle itself. -/
def Toggle.id (t : Toggle) : CommandId := (toggle .filled t).id

/-- The first argument that is no flag. -/
def Toggle.argument (words : List String) : Option String :=
  (words.filter fun w => !Flag.spells [("force", ⟨["force"], ["f"]⟩)] w).head?

/-- What a toggle says of a command in a server, and the records that it leaves. -/
def Toggle.applied (t : Toggle) (guild : String) (target : CommandInfo) (g : GateRecords) : String × GateRecords :=
  match t with
  | .disable => ("Disabled `" ++ target.name ++ "` in this server", g.disable guild target.id.hex false)
  | .enable =>
    let (was, after) := g.enable guild target.id.hex
    (if was then "Enabled `" ++ target.name ++ "` in this server" else "`" ++ target.name ++ "` wasn't disabled", after)

/-- What a toggle says in a server, or why it fails, and the records that it leaves. -/
def Toggle.effect (t : Toggle) (r : Registry) (guild : String) (words : List String) (g : GateRecords) :
    Except CommandError String × GateRecords :=
  if g.disables guild t.id then (.error (.permissionDenied "This command has been disabled in this server"), g)
  else match argument words with
    | none => (.error (.validationFailed "command" "this argument is required"), g)
    | some name => match r.lookup name with
      | none => (.error (.notFound ("Command `" ++ name ++ "`")), g)
      | some node =>
        if node.command.info.id = t.id then (.error (.logic "you can't toggle this command" none), g)
        else
          let (text, after) := t.applied guild node.command.info g
          (.ok text, after)

/-- The text of an answer. -/
def told : Except CommandError String → String
  | .ok text => text
  | .error e => e.message

/-- A command whose only argument is its first word. -/
theorem get?_first {schema : Schema} {name : String} (hmentions : schema.mentions = [])
    (hinputs : schema.inputs = [(name, .plain (.single 0))]) (hflag : name ∉ (Flag.effective schema.flags).map Prod.fst)
    (now : Instant) (text : String) :
    (schema.parseText now text).get? name = (Flag.plainWords schema.flags text).head?.map .text := by
  have hread : ∀ words : List String, (∀ w ∈ words, isBlankText w = false) →
      (InputSpec.plain (.single 0)).read now (Schema.inputWords words []) = words.head?.map .text := by
    intro words hwords
    have hall : Schema.inputWords words [] = words := by simp [Schema.inputWords]
    rw [hall]
    cases words with
    | nil => rfl
    | cons w words => simp [InputSpec.read, InputSpec.plain, InputSpec.capture, Index.select, InputSpec.items,
        hwords w List.mem_cons_self]
  have hplain : ∀ w ∈ Flag.plainWords schema.flags text, isBlankText w = false :=
    fun w hw => isBlankText_of_mem_wordsOf (List.mem_filter.mp hw).1
  rw [Schema.get?_parseText, Schema.flagValue?_eq_none hflag, Option.or_none, Schema.slotValue?, Schema.slotValues,
    hmentions, hinputs]
  simp only [Schema.findMentions, List.foldl_nil, List.map_nil, List.nil_append, List.filterMap_cons,
    List.filterMap_nil, hread _ hplain]
  cases (Flag.plainWords schema.flags text).head? with
  | none => rfl
  | some w => simp [Dict.get?_ofList]

/-- A toggle reads one argument, and reads it the same at any time. -/
theorem get?_toggle (t : Toggle) (ctx : Context) (today : Instant) :
    (ctx.reading (toggle .filled t) today).args.get? "command" =
      (Toggle.argument (wordsOf ctx.invocation.argsText)).map .text := by
  have hflag : "command" ∉ (Flag.effective (toggle .filled t).schema.flags).map Prod.fst := by cases t <;> decide
  rw [Context.args_reading, Schema.parse, get?_first rfl rfl hflag]
  rfl

section Runs

variable (t : Toggle) (bot : Bot) {ctx : Context} {guild : String} {g : GateRecords}

theorem exec_applyToggle_does (hguild : ctx.message.guildId = some guild) (ctx' : Context) (target : CommandInfo) :
    ((applyToggle t ctx target).exec bot ctx').Does g
      [.sent ctx.message.channelId ⟨(t.applied guild target g).1, none⟩] (t.applied guild target g).2
      fun r => r = .ok () := by
  unfold applyToggle
  rw [hguild, Option.getD_some]
  cases t with
  | disable =>
    refine (State.decide_does (fun g => ((), g.disable guild target.id.hex false)) fun hg => ?_).bind fun _ _ => ?_
    · exact hg.disable guild target.id.hex
    · exact Program.exec_say_does bot ctx ctx' _
  | enable =>
    refine (State.decide_does (fun g => g.enable guild target.id.hex) fun hg => ?_).bind fun was hwas => ?_
    · exact hg.enable guild target.id.hex
    · subst hwas
      simp only [Toggle.applied]
      split <;> exact Program.exec_say_does bot ctx ctx' _

/-- What a handler sends before it ends. -/
def said (channel : String) : Except CommandError String → List OutputEvent
  | .ok text => [.sent channel ⟨text, none⟩]
  | .error _ => []

variable {answer : Except CommandError String} {after : GateRecords} {words : List String}

/-- A toggle was called in a server with these words, and its argument was read. -/
structure Toggle.Reads (t : Toggle) (guild : String) (words : List String) (ctx : Context) : Prop where
  command : ctx.command.id = t.id
  parent : ctx.parent = none
  server : ctx.message.guildId = some guild
  present : ∀ w ∈ words, isBlankText w = false
  argument : ctx.args.get? "command" = (Toggle.argument words).map .text

variable {t bot}

theorem Toggle.Reads.of_call (hcommand : ctx.command.id = t.id) (hparent : ctx.parent = none)
    (hguild : ctx.message.guildId = some guild) (today : Instant) :
    t.Reads guild (wordsOf ctx.invocation.argsText) (ctx.reading (toggle .filled t) today) := by
  refine ⟨?_, ?_, ?_, fun w hw => isBlankText_of_mem_wordsOf hw, get?_toggle t ctx today⟩
  · rw [Context.command_reading, hcommand]
  · rw [Context.parent_reading, hparent]
  · rw [Context.message_reading, hguild]

theorem prerun_toggle (t : Toggle) (ctx : Context) : (toggle .filled t).handler.program .prerun ctx = checkServer ctx :=
  rfl

theorem run_toggle (t : Toggle) (ctx : Context) :
    (toggle .filled t).handler.program .run ctx = runToggle .filled t ctx :=
  rfl

/-- What a toggle does with a name. -/
theorem exec_runToggle_does (h : t.Reads guild words ctx) (hon : g.disables guild t.id = false) {name : String}
    (hname : Toggle.argument words = some name) (heffect : t.effect bot.registry guild words g = (answer, after)) :
    ((runToggle .filled t ctx).exec bot ctx).Does g (said ctx.message.channelId answer) after
      fun r => r = answer.map fun _ => () := by
  have htext : ctx.args.text? "command" = some name := by rw [ParsedArgs.text?, h.argument, hname]; rfl
  simp only [Toggle.effect, hon, hname, Bool.false_eq_true, if_false] at heffect
  simp only [runToggle, htext, Option.getD_some, Program.exec]
  cases hlookup : bot.registry.lookup name with
  | none =>
    rw [hlookup] at heffect
    cases heffect
    exact does_done rfl
  | some node =>
    rw [hlookup] at heffect
    simp only [Option.map_some, h.command, h.parent, Option.isSome_none, Bool.or_false, beq_iff_eq]
    by_cases hself : node.command.info.id = t.id
    · simp only [hself, if_true] at heffect ⊢
      cases heffect
      exact does_done rfl
    · simp only [hself, if_false] at heffect ⊢
      cases heffect
      exact exec_applyToggle_does t bot h.server ctx node.command.info

/-- The rule of a toggle asks for its argument. -/
theorem checkAll_toggle (h : t.Reads guild words ctx) : ValidationRule.checkAll (toggle .filled t).rules ctx.args =
    match Toggle.argument words with
    | none => .error (.validationFailed "command" "this argument is required")
    | some _ => .ok () := by
  show ValidationRule.checkAll [⟨"command", .required, none⟩] _ = _
  rw [ValidationRule.checkAll, ValidationRule.checkAll, ValidationRule.check, h.argument]
  cases hname : Toggle.argument words with
  | none => rfl
  | some name =>
    have hname : isBlankText name = false := h.present _ (List.mem_filter.mp (List.mem_of_head? hname)).1
    simp [Validator.violation, Validator.isPresent, hname]

theorem runHandler_toggle_does (h : t.Reads guild words ctx) (hon : g.disables guild t.id = false)
    (heffect : t.effect bot.registry guild words g = (answer, after)) :
    (bot.runHandler (toggle .filled t) ctx).Does g (said ctx.message.channelId answer) after
      fun r => r = answer.map fun _ => () := by
  unfold Bot.runHandler
  refine (State.count_does (by simp)).bind fun _ _ => (State.countFor_does "command_runs").bind fun _ _ => ?_
  rw [checkAll_toggle h]
  cases hname : Toggle.argument words with
  | none =>
    simp only [Toggle.effect, hon, hname, Bool.false_eq_true, if_false] at heffect
    cases heffect
    exact does_done rfl
  | some name =>
    have hserver : checkServer ctx = .done := by rw [checkServer, h.server]
    have hprerun : (bot.call .prerun (toggle .filled t) ctx).Does g [] g fun r => r = .ok () :=
      bot.call_does ctx ((prerun_toggle t ctx).trans hserver) (does_done rfl)
    refine hprerun.bind fun r hr => ?_
    subst hr
    exact bot.call_does ctx (run_toggle t ctx) (exec_runToggle_does h hon hname heffect)

/-- The errors of a toggle are told, without a hint, and nothing was changed then. -/
theorem effect_error {r : Registry} {e : CommandError}
    (h : t.effect r guild words g = (.error e, after)) :
    e.isClientFacing = true ∧ e.isSilent = false ∧ e.footer = none ∧ after = g := by
  unfold Toggle.effect at h
  split at h
  · cases h
    exact ⟨rfl, rfl, rfl, rfl⟩
  split at h
  · cases h
    exact ⟨rfl, rfl, rfl, rfl⟩
  split at h
  · cases h
    exact ⟨rfl, rfl, rfl, rfl⟩
  split at h
  · cases h
    exact ⟨rfl, rfl, rfl, rfl⟩
  · cases h

theorem tellError_does {e : CommandError} (hfacing : e.isClientFacing = true) (hsilent : e.isSilent = false)
    (hfooter : e.footer = none) :
    (bot.failWith ctx e >>= bot.leave ctx none).Does g [.sent ctx.message.channelId ⟨e.message, none⟩] g
      fun r => r = .ok .completed ∨ ∃ e, r = .ok (.failed e) := by
  have hfails : (bot.failWith ctx e).Does g [.sent ctx.message.channelId ⟨e.message, e.footer⟩] g
      fun r => r = .ok (.failed e) := bot.failWith_does ctx hfacing hsilent rfl
  rw [hfooter] at hfails
  refine hfails.bind fun r hr => ?_
  subst hr
  exact bot.leave_does ctx _ (.inr ⟨e, rfl⟩)

/-- A toggle that is called in a server shows that it is at work, and says what came of it. -/
theorem execute_toggle_does (hcommand : ctx.command = (toggle .filled t).info) (hparent : ctx.parent = none)
    (hguild : ctx.message.guildId = some guild)
    (heffect : t.effect bot.registry guild (wordsOf ctx.invocation.argsText) g = (answer, after)) :
    (bot.execute (toggle .filled t) ctx).Does g
      [.typing ctx.message.channelId, .sent ctx.message.channelId ⟨told answer, none⟩] after
      fun r => r = .ok .completed ∨ ∃ e, r = .ok (.failed e) := by
  have hid : ctx.command.id = t.id := by rw [hcommand]; rfl
  have hrollout : ctx.command.rollout = none := by rw [hcommand]; rfl
  have hdev : ctx.command.dev = false := by rw [hcommand]; rfl
  rw [Bot.execute, if_neg (by simp [Gate.passesRollout, hrollout])]
  refine (bot.setUp_does ctx rfl).bind fun reaction hreaction => ?_
  subst hreaction
  refine (bot.askGate_does hdev hparent hguild).bind fun verdict hverdict => ?_
  rw [hid] at hverdict
  subst hverdict
  cases hon : g.disables guild t.id with
  | true =>
    rw [Toggle.effect, if_pos hon] at heffect
    cases heffect
    exact tellError_does rfl rfl rfl
  | false =>
    have hreading : (Bot.withArgs (toggle .filled t) ctx).Does g [] g
        fun ctx' => ∃ today, ctx' = ctx.reading (toggle .filled t) today :=
      does_get.bind fun s _ => does_done ⟨s.today, rfl⟩
    refine hreading.bind fun ctx' hctx' => ?_
    obtain ⟨today, rfl⟩ := hctx'
    split
    · rename_i d hd
      cases Command.delegateFor_mem hd
    · have hreads := Toggle.Reads.of_call hid hparent hguild today
      have hchannel : (ctx.reading (toggle .filled t) today).message = ctx.message := ctx.message_reading _ today
      generalize ctx.reading (toggle .filled t) today = ctx' at hreads hchannel
      have hruns := runHandler_toggle_does hreads hon heffect
      rw [hchannel] at hruns
      cases answer with
      | ok text =>
        refine hruns.bind fun result hresult => ?_
        subst hresult
        exact bot.leave_does ctx' .completed (.inl rfl)
      | error e =>
        obtain ⟨hfacing, hsilent, hfooter, rfl⟩ := effect_error heffect
        refine hruns.bind fun result hresult => ?_
        subst hresult
        rw [← hchannel]
        exact tellError_does hfacing hsilent hfooter

end Runs

/-! ## Lines -/

/-- What admins decided so far. -/
def Terminal.records (t : Terminal) : GateRecords := t.state.stores.gates

/-- The line is a message that calls the toggle, with these words after its name. -/
def Terminal.Calls (t : Terminal) (toggle : Toggle) (line : String) (words : List String) : Prop :=
  ∃ content text name, Line.ofText line = .message content ∧ stripMarker content t.bot.config.marker = some text ∧
    wordsOf text = name :: words ∧ alike toggle.name name = true

namespace Terminal

variable {config : Config} {t : Terminal} {guild line : String} {words : List String}

theorem Calls.of_bot_eq {t' : Terminal} {toggle : Toggle} (h : t.Calls toggle line words) (hbot : t'.bot = t.bot) :
    t'.Calls toggle line words := by
  rw [Calls, hbot]
  exact h

theorem Sound.resolve_toggle (h : t.Sound config) (toggle : Toggle) {text name : String}
    (hwords : wordsOf text = name :: words) (hname : alike toggle.name name = true) :
    t.bot.registry.resolve text = .ok (.below text (.leaf (Demo.toggle .filled toggle)) none) := by
  obtain ⟨hoffers, hnodes⟩ := Registry.ofNodes_eq_ok h.registry
  have hcoherent : t.bot.registry.Coherent := hoffers ▸ Registry.coherent_ofOffers _
  have hnode : .leaf (Demo.toggle .filled toggle) ∈ t.bot.registry.nodes := by
    rw [hnodes]
    cases toggle <;> simp [nodes]
  have hlive : (Demo.toggle .filled toggle).info.archived = false := by cases toggle <;> rfl
  refine hcoherent.resolve_of_name (Registry.mem_direct_of_live hnode hlive) List.mem_cons_self hname ?_
  rw [hwords]
  rfl

theorem Sound.handle_toggle (h : t.Sound config) (toggle : Toggle) (message : InboundMessage) {text name : String}
    (hperson : message.author.bot = false) (hguild : message.guildId = some guild)
    (hmarker : stripMarker message.content t.bot.config.marker = some text)
    (hwords : wordsOf text = name :: words) (hname : alike toggle.name name = true) {g after : GateRecords}
    {answer : Except CommandError String} (heffect : toggle.effect t.bot.registry guild words g = (answer, after)) :
    (t.bot.handleAndSettle message).Does g
      [.typing message.channelId, .sent message.channelId ⟨told answer, none⟩] after
      fun r => r = .ok .completed ∨ ∃ e, r = .ok (.failed e) := by
  have hinvocation : t.bot.invocationText message = some text := by
    rw [Bot.invocationText, hperson]
    exact hmarker
  let ctx : Context := .ofResolution t.bot.config message (.below text (.leaf (Demo.toggle .filled toggle)) none)
  have hrest : wordsOf (Invocation.ofText text 1 []).argsText = words := by
    rw [(Invocation.splits_ofText text 1 []).wordsOf_argsText, Invocation.ofText, List.map_drop, texts_tokenize, hwords]
    rfl
  have hargs : wordsOf ctx.invocation.argsText = words := hrest
  have hexecutes : (t.bot.execute (Demo.toggle .filled toggle) ctx).Does g
      [.typing message.channelId, .sent message.channelId ⟨told answer, none⟩] after
      fun r => r = .ok .completed ∨ ∃ e, r = .ok (.failed e) :=
    execute_toggle_does rfl rfl hguild (by rw [hargs, heffect])
  have hhandles : (t.bot.handle message).Does g
      [.typing message.channelId, .sent message.channelId ⟨told answer, none⟩] after
      fun r => r = .ok .completed ∨ ∃ e, r = .ok (.failed e) := by
    rw [Bot.handle, hinvocation]
    dsimp only
    rw [h.resolve_toggle toggle hwords hname]
    exact (State.count_does (by decide)).bind fun _ _ => hexecutes
  exact hhandles.bind fun r hr => State.settle_does.bind fun _ _ => does_done hr

/-- A line that calls a toggle in a server prints what came of it, and changes nothing else of the terminal. -/
theorem Sound.enter_toggle (h : t.Sound config) (hguild : t.session.guildId = some guild) {toggle : Toggle}
    (hcalls : t.Calls toggle line words) (now : Instant) {answer : Except CommandError String} {after : GateRecords}
    (heffect : toggle.effect t.bot.registry guild words t.records = (answer, after)) :
    ∃ t', t.enter now line = (.print (told answer), some t') ∧ t'.records = after ∧ t'.bot = t.bot ∧
      t'.session = t.session.afterMessage := by
  obtain ⟨content, text, name, hline, hmarker, hwords, hname⟩ := hcalls
  have hhandles := h.handle_toggle toggle (t.session.nextMessage content) h.person hguild hmarker hwords hname heffect
  obtain ⟨-, hrecords, hevents, hresult⟩ := hhandles { t.state with today := now } (h.calm.at now) rfl
  have hshown : (t.deliver now content).2.1 = .print (told answer) := by
    show Screen.ofEvents t.quiet (List.drop t.state.output.events.length _) = _
    rw [hevents, List.drop_left]
    rfl
  have hremark : ∀ t' : Terminal, t'.remarkOn (t.deliver now content).1 = .blank := by
    intro t'
    change (t.deliver now content).1 = _ ∨ ∃ e, (t.deliver now content).1 = _ at hresult
    rcases hresult with hresult | ⟨e, hresult⟩ <;> rw [hresult] <;> rfl
  refine ⟨(t.deliver now content).2.2, ?_, hrecords, rfl, rfl⟩
  unfold Terminal.enter
  rw [hline]
  dsimp only
  rw [hremark, hshown]
  rfl

end Terminal

end Demo

end ChatBot
