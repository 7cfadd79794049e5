/-
  ChatBot.Proofs.Pipeline.Dispatch — where a run starts hooks, and that it has nothing else to do with them.

  Proved, of every part of a run: it starts no hook (`Quiet`), set-up apart, and a host can
  serve it (`Hosted`). So what a run of a command starts is what the set-up of every
  command that passed its rollout starts (`executeListing_hosted`).
-/
import ChatBot.Proofs.Pipeline.Delegation
import ChatBot.Proofs.Pipeline.Hosting
import ChatBot.Proofs.Pipeline.Reports

namespace ChatBot

open Steps

variable {α : Type}

/-! ## What starts no hook -/

namespace State

theorem quiet_count {event : Metrics.Event} (h : event ≠ .hookFailure) : Quiet (count event) := by
  refine quiet_modify (fun s => ?_) fun s => ?_
  · cases event with
    | hookFailure => exact absurd rfl h
    | error facing => cases facing <;> rfl
    | _ => rfl
  · cases event with
    | hookFailure => exact absurd rfl h
    | error facing => cases facing <;> rfl
    | _ => rfl

theorem quiet_countFor (counter : String) : Quiet (countFor counter) := quiet_modify (fun _ => rfl) fun _ => rfl

theorem quiet_report (r : ErrorReport) : Quiet (report r) := quiet_modify (fun _ => rfl) fun _ => rfl

theorem quiet_note (entry : Note) : Quiet (note entry) := quiet_modify (fun _ => rfl) fun _ => rfl

theorem quiet_request (ask : Output → α × Output) : Quiet (request ask) :=
  quiet_modifyGet (fun _ => rfl) (fun _ => rfl) fun _ => rfl

theorem quiet_fire (number : Nat) : Quiet (modify (·.fire number) : Act PUnit) := by
  have hwaiting : ∀ s : State, s.bare.waiting? number = s.waiting? number := fun _ => rfl
  refine quiet_modify (fun s => ?_) fun s => ?_
  · cases h : s.waiting? number with
    | none => rw [fire_of_not_waiting h, fire_of_not_waiting ((hwaiting s).trans h)]
    | some reaction =>
      rw [fire_of_waiting h, fire_of_waiting ((hwaiting s).trans h)]
      rfl
  · cases h : s.waiting? number with
    | none => rw [fire_of_not_waiting h]
    | some reaction =>
      rw [fire_of_waiting h]
      rfl

theorem quiet_advance (milliseconds : Nat) : Quiet (advance milliseconds) := by
  unfold advance
  split
  · refine quiet_settle.bind fun _ => quiet_get (fun _ => rfl) fun s => ?_
    refine Quiet.bind (quiet_forM fun r _ => quiet_fire r.1) fun _ => ?_
    exact quiet_modify (fun _ => rfl) fun _ => rfl
  · exact quiet_done _

end State

/-- Whom a command is about does not depend on what was pushed to the analytics service. -/
theorem Resolver.resolve_bare (r : Resolver) (s : State) (args : ParsedArgs) (message : InboundMessage)
    (options : ResolverOptions) :
    r.resolve s.bare.stores args message options = r.resolve s.stores args message options := by
  obtain ⟨⟨_, _, analytics, _, _⟩, _, _, _, _, _, _, _, _, _, _, _⟩ := s
  cases analytics <;> rfl

theorem Program.quiet_exec (bot : Bot) (ctx : Context) (p : Program) : Quiet (p.exec bot ctx) := by
  induction p with
  | done => exact quiet_done _
  | fail e => exact quiet_done _
  | send channel message next ih => exact (State.quiet_request _).bind ih
  | startTyping channel next ih => exact (State.quiet_request _).bind ih
  | resolve options next ih =>
    refine quiet_get (fun s => ?_) fun _ => ih _
    rw [Resolver.resolve_bare]
  | sleep milliseconds next ih => exact (State.quiet_advance _).bind fun _ => ih
  | lookup name next ih => exact ih _
  | keepIdentity identity next ih => exact Quiet.bind (quiet_modify (fun _ => rfl) fun _ => rfl) fun _ => ih
  | disable guild command devOnly next ih => exact Quiet.bind (quiet_modify (fun _ => rfl) fun _ => rfl) fun _ => ih
  | enable guild command next ih => exact Quiet.bind (quiet_modifyGet (fun _ => rfl) (fun _ => rfl) fun _ => rfl) ih
  | note entry next ih => exact (State.quiet_note _).bind fun _ => ih

namespace Bot

variable (bot : Bot) (ctx : Context)

theorem quiet_arrangeReaction (after : Option Nat) : Quiet (bot.arrangeReaction ctx after) := by
  cases after with
  | none => exact quiet_done _
  | some after => exact quiet_modifyGet (fun _ => rfl) (fun _ => rfl) fun _ => rfl

theorem quiet_takeDown (reaction : Option Nat) : Quiet (takeDown ctx bot reaction) := by
  cases reaction with
  | none => exact quiet_done _
  | some number =>
    refine quiet_settle.bind fun _ => ?_
    refine Quiet.bind (quiet_modifyGet (fun _ => rfl) (fun _ => rfl) fun _ => rfl) fun reaction => ?_
    split
    · exact (State.quiet_request _).bind fun _ => quiet_done _
    · exact quiet_done _

theorem quiet_leave (reaction : Option Nat) (result : Except OutputError Outcome) :
    Quiet (bot.leave ctx reaction result) := by
  cases result with
  | error e => exact quiet_done _
  | ok outcome => exact (bot.quiet_takeDown ctx reaction).bind fun _ => quiet_done _

theorem quiet_failWith (e : CommandError) : Quiet (bot.failWith ctx e) := by
  refine Quiet.bind ?_ fun _ => quiet_done _
  unfold tell
  refine (State.quiet_count (by simp)).bind fun _ => (State.quiet_countFor _).bind fun _ => ?_
  split
  · exact (State.quiet_report _).bind fun _ => (State.quiet_request _).bind fun _ => quiet_done _
  split
  · exact quiet_done _
  · exact (State.quiet_request _).bind fun _ => quiet_done _

theorem quiet_askGate : Quiet (bot.askGate ctx) := by
  refine quiet_get (fun s => rfl) fun s => ?_
  cases Gate.check bot.config.developers s.stores ctx.command ctx.parent ctx.message with
  | error e => exact (State.quiet_count (by simp)).bind fun _ => quiet_done _
  | ok u => exact quiet_done _

theorem withArgs_hosted (command : Command) {l : List StartedHook} {Q : List StartedHook → Context → Prop}
    (h : ∀ today, Q l (ctx.reading command today)) : Hosted Q l (withArgs command ctx) :=
  hosted_get (fun _ => rfl) fun s => .done (h s.today)

theorem quiet_call (part : Handler.Part) (command : Command) : Quiet (bot.call part command ctx) :=
  (quiet_tell _).bind fun _ => (Program.quiet_exec bot ctx _).bind fun _ => (quiet_tell _).bind fun _ => quiet_done _

theorem quiet_runHandler (command : Command) : Quiet (bot.runHandler command ctx) := by
  unfold runHandler
  refine (State.quiet_count (by simp)).bind fun _ => (State.quiet_countFor _).bind fun _ => ?_
  split
  · exact quiet_done _
  · refine (bot.quiet_call ctx .prerun command).bind fun result => ?_
    cases result with
    | error e => exact quiet_done _
    | ok u => exact bot.quiet_call ctx .run command

theorem quiet_conclude (result : Except CommandError Unit) : Quiet (bot.conclude ctx result) := by
  cases result with
  | error e => exact bot.quiet_failWith ctx e
  | ok u => exact quiet_done _

theorem quiet_announceUnknown (message : InboundMessage) (text : String) (e : CommandError) :
    Quiet (bot.announceUnknown message text e) := by
  unfold announceUnknown
  split
  · exact (State.quiet_request _).bind fun _ => quiet_done _
  · exact quiet_done _

end Bot

/-! ## What is started -/

namespace Bot

/-- What is started for a command of an author when there is an analytics service. -/
def hooksFor (bot : Bot) (author command : String) (draw : Float) : List StartedHook :=
  ((⟨"identity_sync", bot.config.identitySync, .syncIdentity⟩ :: bot.hooks).filter
    fun h => h.policy.selects draw command).map fun h => ⟨h, author, command⟩

/-- What is started for some commands of an author, with a draw for each. -/
def Starts (bot : Bot) (author : String) : List CommandInfo → List StartedHook → Prop
  | [], l => l = []
  | c :: commands, l => ∃ draw rest, l = bot.hooksFor author c.name draw ++ rest ∧ bot.Starts author commands rest

variable {bot : Bot} {ctx : Context} {l : List StartedHook}

theorem startHooks_hosted {Q : List StartedHook → Unit → Prop}
    (h : ∀ draw, Q (l ++ bot.hooksFor ctx.message.author.id ctx.command.name draw) ()) :
    Hosted Q l (bot.startHooks ctx) := by
  have hall : ∀ s : State, bot.allHooks s.bare.stores = bot.allHooks s.stores := by
    intro s
    simp only [allHooks, State.bare, Option.isSome_map]
  refine .step (fun s => ⟨rfl, ?_⟩) (fun _ => rfl) fun s hs => .done ?_
  · simp only [State.hookSide, hall]
    rfl
  · have hpresent : bot.allHooks s.stores = ⟨"identity_sync", bot.config.identitySync, .syncIdentity⟩ :: bot.hooks := by
      rw [allHooks, if_pos hs]
      rfl
    simp only [hall, hpresent]
    exact h s.draw

theorem setUp_hosted {command : Command} {Q : List StartedHook → Option Nat → Prop}
    (h : ∀ draw reaction, Q (l ++ bot.hooksFor ctx.message.author.id ctx.command.name draw) reaction) :
    Hosted Q l (bot.setUp command ctx) := by
  refine .bind ((State.quiet_request _).hosted fun _ => ?_)
  refine .bind ((bot.quiet_arrangeReaction ctx _).hosted fun reaction => ?_)
  exact .bind (startHooks_hosted fun draw => .done (h draw reaction))

/-! ## The commands of a run -/

/-- `execute`, with the commands that passed their rollout. -/
def executeListing (bot : Bot) (command : Command) (ctx : Context) :
    Act (List CommandInfo × Except OutputError Outcome) :=
  if !Gate.passesRollout bot.config.developers ctx.command ctx.message then do
    State.count .rolloutMiss
    return ([], .ok .rolledOut)
  else do
    let reaction ← bot.setUp command ctx
    match ← bot.askGate ctx with
    | .error e => ([ctx.command], ·) <$> (bot.failWith ctx e >>= bot.leave ctx reaction)
    | .ok () => do
      let ctx ← withArgs command ctx
      match _h : command.delegateFor ctx.args with
      | none => do
        let result ← bot.runHandler command ctx
        ([ctx.command], ·) <$> (bot.conclude ctx result >>= bot.leave ctx reaction)
      | some d => do
        State.count .delegation
        let (commands, inner) ← executeListing bot d.2 (ctx.forDelegate d.2.info)
        (ctx.command :: commands, ·) <$> bot.leave ctx reaction (inner.map fun o => .delegated d.2.name o)
termination_by sizeOf command
decreasing_by exact Command.sizeOf_delegate (Command.delegateFor_mem _h)

/-- `handle`, with the commands that passed their rollout. -/
def handleListing (bot : Bot) (message : InboundMessage) : Act (List CommandInfo × Except OutputError Outcome) :=
  match bot.invocationText message with
  | none => return ([], .ok .ignored)
  | some text => match bot.registry.resolve text with
    | .error e => ([], ·) <$> bot.announceUnknown message text e
    | .ok resolution => do
      State.count .received
      bot.executeListing resolution.node.command (.ofResolution bot.config message resolution)

theorem snd_executeListing (bot : Bot) (command : Command) (ctx : Context) :
    Prod.snd <$> bot.executeListing command ctx = bot.execute command ctx := by
  induction command using Command.delegation_induction generalizing ctx with
  | h command ih =>
    rw [executeListing, execute]
    split
    · rw [map_bind]
      rfl
    rw [map_bind]
    refine bind_congr fun reaction => ?_
    rw [map_bind]
    refine bind_congr fun verdict => ?_
    cases verdict with
    | error e => exact snd_map_pair _ _
    | ok u =>
      rw [map_bind]
      refine bind_congr fun ctx' => ?_
      split
      · rename_i hd
        split
        · rename_i d hd'
          cases hd.symm.trans hd'
        · rw [map_bind]
          exact bind_congr fun result => snd_map_pair _ _
      · rename_i d hd
        split
        · rename_i d' hd'
          obtain rfl : d = d' := Option.some.inj (hd.symm.trans hd')
          rw [map_bind, ← ih d (Command.delegateFor_mem hd)]
          refine bind_congr fun _ => ?_
          rw [map_bind, bind_map_left]
          exact bind_congr fun listed => snd_map_pair _ _
        · rename_i hd'
          cases hd.symm.trans hd'

theorem snd_handleListing (bot : Bot) (message : InboundMessage) :
    Prod.snd <$> bot.handleListing message = bot.handle message := by
  unfold handleListing handle
  cases bot.invocationText message with
  | none => rfl
  | some text =>
    dsimp only
    cases bot.registry.resolve text with
    | error e => exact snd_map_pair _ _
    | ok found =>
      rw [map_bind]
      exact bind_congr fun _ => bot.snd_executeListing _ _

/-- A run of a command starts what is started for the commands that passed their rollout. -/
theorem executeListing_hosted (bot : Bot) (command : Command) (ctx : Context) (l : List StartedHook) :
    Hosted (fun l' r => ∃ more, l' = l ++ more ∧ bot.Starts ctx.message.author.id r.1 more) l
      (bot.executeListing command ctx) := by
  induction command using Command.delegation_induction generalizing ctx l with
  | h command ih =>
    rw [executeListing]
    split
    · exact .bind ((State.quiet_count (by simp)).hosted fun _ => .done ⟨[], (List.append_nil l).symm, rfl⟩)
    refine .bind (setUp_hosted fun draw reaction => ?_)
    -- The rest starts what its own commands start, after what this set-up has started.
    have hrest : ∀ (x : Act (Except OutputError Outcome)) (commands : List CommandInfo) (more : List StartedHook),
        Quiet x → bot.Starts ctx.message.author.id commands more →
        Hosted (fun l' (r : List CommandInfo × Except OutputError Outcome) =>
            ∃ more, l' = l ++ more ∧ bot.Starts ctx.message.author.id r.1 more)
          (l ++ bot.hooksFor ctx.message.author.id ctx.command.name draw ++ more)
          ((ctx.command :: commands, ·) <$> x) := by
      intro x commands more hx hmore
      rw [map_eq_pure_bind]
      exact .bind (hx.hosted fun o => .done ⟨_, List.append_assoc .., draw, more, rfl, hmore⟩)
    have hstops : ∀ x : Act (Except OutputError Outcome), Quiet x →
        Hosted (fun l' (r : List CommandInfo × Except OutputError Outcome) =>
            ∃ more, l' = l ++ more ∧ bot.Starts ctx.message.author.id r.1 more)
          (l ++ bot.hooksFor ctx.message.author.id ctx.command.name draw) (([ctx.command], ·) <$> x) := by
      intro x hx
      have hx' := hrest x [] [] hx rfl
      rwa [List.append_nil] at hx'
    refine .bind ((bot.quiet_askGate ctx).hosted fun verdict => ?_)
    cases verdict with
    | error e => exact hstops _ ((bot.quiet_failWith ctx e).bind fun o => bot.quiet_leave ctx reaction o)
    | ok u =>
      refine .bind (withArgs_hosted ctx command fun today => ?_)
      split
      · refine .bind ((bot.quiet_runHandler _ command).hosted fun result => ?_)
        exact hstops _ ((bot.quiet_conclude _ result).bind fun o => bot.quiet_leave _ reaction o)
      · rename_i d hd
        refine .bind ((State.quiet_count (by simp)).hosted fun _ => .bind ?_)
        refine (ih d (Command.delegateFor_mem hd) _ _).mono fun l' r hr => ?_
        obtain ⟨more, rfl, hmore⟩ := hr
        exact hrest _ r.1 more (bot.quiet_leave _ reaction _) hmore

theorem handleListing_hosted (bot : Bot) (message : InboundMessage) :
    Hosted (fun l r => bot.Starts message.author.id r.1 l) [] (bot.handleListing message) := by
  unfold handleListing
  split
  · exact .done rfl
  split
  · rw [map_eq_pure_bind]
    exact .bind ((bot.quiet_announceUnknown message _ _).hosted fun _ => .done rfl)
  · rename_i resolution _
    refine .bind ((State.quiet_count (by simp)).hosted fun _ => ?_)
    refine (bot.executeListing_hosted resolution.node.command _ []).mono fun l r hr => ?_
    obtain ⟨more, rfl, hmore⟩ := hr
    exact hmore

end Bot

end ChatBot
