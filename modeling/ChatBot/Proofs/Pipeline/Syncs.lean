/-
  ChatBot.Proofs.Pipeline.Syncs — what hooks do to the runs that start them, and what the identity syncs come to.

  Proved of every course of a host:
  - whether and when hooks go ahead, and what they are answered, makes no difference to how
    a message ends or to what the chat sees;
  - when no run is in flight and every hook has gone ahead, and the identity sync is always
    or never drawn, the syncs are those of the commands that passed their rollout and are not
    excluded, and the log of the analytics service and the failures add up.
-/
import ChatBot.Proofs.Pipeline.Dispatch
import ChatBot.Proofs.Pipeline.InTurn

namespace ChatBot

open Steps

/-! ## Hooks that are always or never drawn -/

namespace SamplingPolicy

open Float.Model in
theorem pos_of_one_le {x : Float} (h : 1.0 ≤ x) : 0.0 < x := by
  have hle : (UnpackedFloat.compare (1.0 : Float).toModel.unpack x.toModel.unpack).any (·.isLE) = true :=
    of_decide_eq_true h
  suffices hlt : (UnpackedFloat.compare (0.0 : Float).toModel.unpack x.toModel.unpack == some .lt) = true from
    decide_eq_true hlt
  generalize x.toModel.unpack = y at hle ⊢
  cases y with
  | notANumber => cases hle
  | zero sign => cases hle
  | infinity sign => cases sign with
    | positive => rfl
    | negative => cases hle
  | finite sign mantissa exponent hm => cases sign with
    | positive => rfl
    | negative => cases hle

open Float.Model in
theorem not_pos_of_le_zero {x : Float} (h : x ≤ 0.0) : ¬ 0.0 < x := by
  intro hpos
  have hle : (UnpackedFloat.compare x.toModel.unpack (0.0 : Float).toModel.unpack).any (·.isLE) = true :=
    of_decide_eq_true h
  have hlt : (UnpackedFloat.compare (0.0 : Float).toModel.unpack x.toModel.unpack == some .lt) = true :=
    of_decide_eq_true hpos
  generalize x.toModel.unpack = y at hle hlt
  cases y with
  | notANumber => cases hle
  | zero sign => cases hlt
  | infinity sign => cases sign with
    | positive => cases hle
    | negative => cases hlt
  | finite sign mantissa exponent hm => cases sign with
    | positive => cases hle
    | negative => cases hlt

theorem selects_of_one_le {p : SamplingPolicy} (h : 1.0 ≤ p.likelihood) (draw : Float) (command : String) :
    p.selects draw command = !p.excludes command := by
  simp only [selects, pos_of_one_le h, h, decide_true, Bool.true_or, Bool.and_true]

theorem selects_of_le_zero {p : SamplingPolicy} (h : p.likelihood ≤ 0.0) (draw : Float) (command : String) :
    p.selects draw command = false := by
  simp only [selects, not_pos_of_le_zero h, decide_false, Bool.and_false, Bool.false_and]

end SamplingPolicy

namespace StartedHook

/-- Whom and which command it was started for. -/
def occasion (h : StartedHook) : String × String := (h.authorId, h.command)

end StartedHook

namespace Bot

variable {bot : Bot} {draws : String → Bool}

/-- The identity sync is started for a command, or not. -/
theorem hooksFor_syncs (hhooks : ∀ h ∈ bot.hooks, h.action ≠ .syncIdentity) (author command : String) (draw : Float) :
    ((bot.hooksFor author command draw).filter (·.isSync)).map (·.occasion) =
      if bot.config.identitySync.selects draw command then [(author, command)] else [] := by
  have hothers : ((bot.hooks.filter fun h => h.policy.selects draw command).map
      fun h => (⟨h, author, command⟩ : StartedHook)).filter (·.isSync) = [] := by
    refine List.filter_eq_nil_iff.mpr fun task htask => ?_
    obtain ⟨h, hh, rfl⟩ := List.mem_map.mp htask
    simpa [StartedHook.isSync] using hhooks h (List.mem_of_mem_filter hh)
  rw [hooksFor, List.filter_cons]
  dsimp only
  split
  · rw [List.map_cons, List.filter_cons_of_pos (by rfl), hothers]
    rfl
  · rw [hothers]
    rfl

theorem Starts.syncs (hhooks : ∀ h ∈ bot.hooks, h.action ≠ .syncIdentity)
    (hdraws : ∀ draw command, bot.config.identitySync.selects draw command = draws command) {author : String}
    {commands : List CommandInfo} {l : List StartedHook} (h : bot.Starts author commands l) :
    (l.filter (·.isSync)).map (·.occasion) = (commands.map fun c => (author, c.name)).filter (draws ·.2) := by
  induction commands generalizing l with
  | nil => rw [show l = [] from h]; rfl
  | cons c commands ih =>
    obtain ⟨draw, rest, rfl, hrest⟩ := h
    rw [List.filter_append, List.map_append, hooksFor_syncs hhooks, hdraws, ih hrest, List.map_cons, List.filter_cons]
    split <;> rfl

/-- A bot without hooks of its own starts nothing else. -/
theorem Starts.isSync (hhooks : bot.hooks = []) {author : String} {commands : List CommandInfo} {l : List StartedHook}
    (h : bot.Starts author commands l) : ∀ task ∈ l, task.isSync := by
  induction commands generalizing l with
  | nil => rw [show l = [] from h]; exact fun task htask => (List.not_mem_nil htask).elim
  | cons c commands ih =>
    obtain ⟨draw, rest, rfl, hrest⟩ := h
    intro task htask
    rcases List.mem_append.mp htask with htask | htask
    · obtain ⟨h, hh, rfl⟩ := List.mem_map.mp htask
      rw [hhooks] at hh
      obtain rfl := List.mem_singleton.mp (List.mem_of_mem_filter hh)
      rfl
    · exact ih hrest task htask

end Bot

/-! ## What the syncs come to -/

namespace Host

variable {β : Type} {bot : Bot} {s : State}

/-- The author and the name of every command that passed its rollout, of all runs that have ended. -/
def executed (h : Host (List CommandInfo × β)) : List (String × String) :=
  h.runs.flatMap fun r => match r.rest.result? with
    | some (commands, _) => commands.map fun c => (r.message.author.id, c.name)
    | none => []

/-- The identity syncs that went ahead. -/
def syncs (h : Host (List CommandInfo × β)) : List HookRun := h.log.filter (·.task.isSync)

variable {h : Host (List CommandInfo × Except OutputError Outcome)}
  {Q : InboundMessage → List StartedHook → List CommandInfo × Except OutputError Outcome → Prop}

/-- In a host at rest all runs have told what they started. -/
theorem Sound.starts (hsound : Sound (fun message l r => bot.Starts message.author.id r.1 l) s h) (hidle : h.isIdle)
    {r : HostedRun (List CommandInfo × Except OutputError Outcome)} (hr : r ∈ h.runs) :
    ∃ a, r.rest = .done a ∧ bot.Starts r.message.author.id a.1 r.started := by
  have hdone : r.rest.isDone := List.all_eq_true.mp (Bool.and_eq_true_iff.mp hidle).1 r hr
  have hhosted := hsound.hosted r hr
  cases hrest : r.rest with
  | done a => exact ⟨a, rfl, (hrest ▸ hhosted).ended⟩
  | mark entry next => rw [hrest] at hdone; cases hdone
  | step change next => rw [hrest] at hdone; cases hdone

theorem Sound.tasks_idle (hsound : Sound Q s h) (hidle : h.isIdle) :
    (h.log.map (·.task)).Perm (h.runs.flatMap (·.started)) := by
  have htasks : h.tasks = [] := List.isEmpty_iff.mp (Bool.and_eq_true_iff.mp hidle).2
  have hperm := hsound.tasks
  rwa [htasks, List.append_nil] at hperm

/-- One for each command that is drawn. -/
theorem Sound.syncs (hsound : Sound (fun message l r => bot.Starts message.author.id r.1 l) s h) (hidle : h.isIdle)
    (hhooks : ∀ h ∈ bot.hooks, h.action ≠ .syncIdentity) {draws : String → Bool}
    (hdraws : ∀ draw command, bot.config.identitySync.selects draw command = draws command) :
    (h.syncs.map (·.task.occasion)).Perm (h.executed.filter (draws ·.2)) := by
  have hruns : ((h.runs.flatMap (·.started)).filter (·.isSync)).map (·.occasion) = h.executed.filter (draws ·.2) := by
    rw [List.filter_flatMap, List.map_flatMap, executed, List.filter_flatMap]
    refine List.flatMap_congr fun r hr => ?_
    obtain ⟨a, ha, hstarts⟩ := hsound.starts hidle hr
    rw [ha]
    exact hstarts.syncs hhooks hdraws
  have hlog : h.syncs.map (·.task.occasion) = ((h.log.map (·.task)).filter (·.isSync)).map (·.occasion) := by
    rw [List.filter_map, List.map_map]
    rfl
  rw [hlog, ← hruns]
  exact ((hsound.tasks_idle hidle).filter _).map _

/-- A failure is a look-up that failed, a record that was refused or a failure of another hook. -/
theorem sum_failures (log : List HookRun) :
    (log.map (·.failures)).sum = log.countP (·.isRefused) + log.countP (·.isLost) + log.countP (·.isFailed) := by
  induction log with
  | nil => rfl
  | cons r log ih =>
    have hone : ∀ b : Bool, (if b then 1 else 0) = b.toNat := fun b => by cases b <;> rfl
    have hr : r.failures = r.isLost.toNat + r.isRefused.toNat + r.isFailed.toNat := rfl
    simp only [List.map_cons, List.sum_cons, List.countP_cons, hone]
    omega

theorem Sound.hookFailures (hsound : Sound Q s h) : h.state.metrics.hookFailures = s.metrics.hookFailures +
      (h.log.countP (·.isRefused) + h.log.countP (·.isLost) + h.log.countP (·.isFailed)) := by
  have hfailures : h.state.metrics.hookFailures = _ := congrArg HookSide.failures hsound.side
  rw [hfailures, ← sum_failures]
  rfl

theorem Sound.synced (hsound : Sound Q s h) : h.state.stores.analytics.map (·.synced) =
      s.stores.analytics.map fun a => a.synced ++ h.log.filterMap (·.accepted?) := by
  have hsynced : h.state.stores.analytics.map (·.synced) = _ := congrArg HookSide.synced hsound.side
  rw [hsynced]
  simp only [HookSide.ofLog, State.hookSide, Option.map_map]
  rfl

theorem Sound.no_other_failures (hsound : Sound (fun message l r => bot.Starts message.author.id r.1 l) s h)
    (hidle : h.isIdle) (hhooks : bot.hooks = []) : h.log.countP (·.isFailed) = 0 := by
  refine List.countP_eq_zero.mpr fun r hr => ?_
  have htask := (hsound.tasks_idle hidle).subset (List.mem_map_of_mem hr)
  obtain ⟨run, hrun, htask⟩ := List.mem_flatMap.mp htask
  obtain ⟨a, -, hstarts⟩ := hsound.starts hidle hrun
  have hsync : r.task.hook.action = .syncIdentity := of_decide_eq_true (hstarts.isSync hhooks _ htask)
  rw [HookRun.isFailed, hsync]
  decide

end Host

namespace Bot

/-- Messages that are handled one after another are a course of a host. -/
theorem mapM_handleAndSettle (bot : Bot) {s : State} (hs : s.stores.analytics.isSome) (hstarted : s.started = [])
    (messages : List InboundMessage) : ∃ events,
      let h := Host.ofEvents bot.handleListing s events
      h.isIdle ∧ h.state = ((messages.mapM bot.handleAndSettle).run s).2 ∧
        h.runs.map (·.rest.result?.map Prod.snd) = ((messages.mapM bot.handleAndSettle).run s).1.map some := by
  have hserve := bot.handleListing_hosted
  have hempty : Host.Sound (fun message l r => bot.Starts message.author.id r.1 l) s
      (Host.ofEvents bot.handleListing s []) := Host.sound_ofEvents hs hstarted hserve []
  have hhandle : ∀ message t, (bot.handleAndSettle message).run t =
      (((bot.handleListing message).run t).1.2, (State.settle.run ((bot.handleListing message).run t).2).2) := by
    intro message t
    rw [handleAndSettle, run_bind, run_bind, ← bot.snd_handleListing, map_eq_pure_bind, run_bind]
    rfl
  obtain ⟨events, h, hevents, htasks, hstate, hruns⟩ := hempty.handles_in_turn hs hserve hhandle rfl messages
  refine ⟨events, ?_⟩
  rw [show Host.ofEvents bot.handleListing s events = h from hevents]
  refine ⟨Bool.and_eq_true_iff.mpr ⟨List.all_eq_true.mpr fun r hr => ?_, List.isEmpty_iff.mpr htasks⟩, hstate, hruns⟩
  have htold : r.rest.result?.map Prod.snd ∈ h.runs.map (·.rest.result?.map Prod.snd) := List.mem_map_of_mem hr
  rw [hruns] at htold
  obtain ⟨o, -, ho⟩ := List.mem_map.mp htold
  cases hrest : r.rest with
  | done a => rfl
  | mark entry next => rw [hrest] at ho; cases ho
  | step change next => rw [hrest] at ho; cases ho

/-- Whether and when hooks go ahead, and what the services answer them, makes no difference to how a message ends, to
    what the chat sees and to the metrics, failures of hooks apart.

    When no run is in flight and every hook has gone ahead: with a likelihood of 1 or more one identity sync was made
    for each command that passed its rollout, delegates included, and is not excluded; with one of 0 or less, none
    was. A sync pushes the record that its look-up of the author finds, if there is an account in it. The log of the
    analytics service has what was pushed and not refused, and the failures of hooks are what was refused, the
    look-ups that failed, and the failures of the bot's own hooks.

    Messages that are handled one after another, with `handleAndSettle`, are one such course. -/
theorem hooks_isolated (bot : Bot) (s : State) (hs : s.stores.analytics.isSome) (hstarted : s.started = [])
    (hhooks : ∀ h ∈ bot.hooks, h.action ≠ .syncIdentity) :
    (∀ message, Prod.snd <$> bot.handleListing message = bot.handle message) ∧
    (∀ messages : List InboundMessage, ∃ events,
      let h := Host.ofEvents bot.handleListing s events
      h.isIdle ∧ h.state = ((messages.mapM bot.handleAndSettle).run s).2 ∧
        h.runs.map (·.rest.result?.map Prod.snd) = ((messages.mapM bot.handleAndSettle).run s).1.map some) ∧
    (∀ events events' : List Host.Event, events.filter (!·.isHook) = events'.filter (!·.isHook) →
      let h := Host.ofEvents bot.handleListing s events
      let h' := Host.ofEvents bot.handleListing s events'
      (∀ n, h.result? n = h'.result? n) ∧ h.state.output = h'.state.output ∧
        { h.state.metrics with hookFailures := 0 } = { h'.state.metrics with hookFailures := 0 }) ∧
    ∀ events,
      let h := Host.ofEvents bot.handleListing s events
      let policy := bot.config.identitySync
      h.isIdle →
        (1.0 ≤ policy.likelihood →
          (h.syncs.map (·.task.occasion)).Perm (h.executed.filter fun e => !policy.excludes e.2)) ∧
        (policy.likelihood ≤ 0.0 → h.syncs = []) ∧
        (∀ r ∈ h.log, ∀ identity, r.pushed? = some identity ↔
          r ∈ h.syncs ∧ r.found = .ok (some identity) ∧ identity.remoteUsername.isSome) ∧
        (h.state.stores.analytics.map (·.synced) =
          s.stores.analytics.map fun a => a.synced ++ h.log.filterMap (·.accepted?)) ∧
        h.state.metrics.hookFailures = s.metrics.hookFailures +
          (h.log.countP (·.isRefused) + h.log.countP (·.isLost) + h.log.countP (·.isFailed)) ∧
        (bot.hooks = [] → h.log.countP (·.isFailed) = 0) := by
  have hserve := bot.handleListing_hosted
  refine ⟨bot.snd_handleListing, bot.mapM_handleAndSettle hs hstarted, fun events events' hevents => ?_,
    fun events => ?_⟩
  · intro h h'
    have halike : Host.Alike h h' := .of_filter_eq hs hstarted hserve hevents
    refine ⟨fun n => ?_, (congrArg State.output halike.bare :), (congrArg State.metrics halike.bare :)⟩
    rw [Host.result?, halike.runs]
    rfl
  · intro h policy hidle
    have hsound : Host.Sound (fun message l r => bot.Starts message.author.id r.1 l) s h :=
      Host.sound_ofEvents hs hstarted hserve events
    refine ⟨fun hone => ?_, fun hzero => ?_, fun r hr identity => ?_, hsound.synced, hsound.hookFailures,
      hsound.no_other_failures hidle⟩
    · exact hsound.syncs hidle hhooks (SamplingPolicy.selects_of_one_le hone)
    · have hnone := hsound.syncs hidle hhooks (SamplingPolicy.selects_of_le_zero hzero)
      simpa using hnone
    · rw [HookRun.pushed?_eq_some, Host.syncs, List.mem_filter]
      simp only [hr, true_and]

namespace TwoPings

def pong : Command := .simple (.make "pong" "pong") (.ofRun fun _ => .done)

/-- `pong` runs in its place, and is excluded. -/
def ping : Command := { pong with info := .make "ping" "ping", delegates := [(fun _ => true, pong)] }

def bot : Bot := ⟨⟨[.leaf ping], .empty, []⟩, { Config.standard with identitySync := ⟨1.0, ["PONG"]⟩ }, []⟩

/-- Joe has an account, and nobody knows Ann. -/
def start : State :=
  State.initial { Stores.empty with
    identities := IdentityStore.empty.insert ⟨"1", some "joe_fm", none, none⟩
    analytics := some .empty } 0

def message (author : PlatformUser) : InboundMessage := ⟨"m", "!ping", author, none, "c", [], none, []⟩

/-- Both arrive, and take their steps in turns; then the hooks go ahead. -/
def events (answers : List HookAnswers) : List Host.Event :=
  .arrive (message ⟨"1", "joe", none, false⟩) :: .arrive (message ⟨"2", "ann", none, false⟩) ::
    (List.replicate 24 [.go 0, .go 1]).flatten ++ answers.map (.hook 0)

def served (answers : List HookAnswers) : Host (List CommandInfo × Except OutputError Outcome) :=
  Host.ofEvents bot.handleListing start (events answers)

/-- One record is refused, and one look-up fails. -/
def failing : List HookAnswers := [⟨none, true⟩, ⟨some (.unavailable "identities" "down"), false⟩]

def answering : List HookAnswers := [⟨none, false⟩, ⟨none, false⟩]

end TwoPings

open TwoPings in
/-- Two syncs fail or one record is noted, and the messages end alike. -/
theorem hooks_isolated_two_pings :
    (served failing).isIdle ∧ ((served failing).syncs.map (·.task.occasion)).Perm [("1", "ping"), ("2", "ping")] ∧
      (served failing).state.metrics.hookFailures = 2 ∧ (served answering).isIdle ∧
      (served answering).state.stores.analytics.map (·.synced) = some ["1"] ∧
      (served failing).result? 0 = (served answering).result? 0 := by
  obtain ⟨-, -, hisolated, haccounts⟩ := bot.hooks_isolated start rfl rfl (fun h hh => by cases hh)
  have hserved : ∀ answers, Host.ofEvents bot.handleListing start (events answers) = served answers := fun _ => rfl
  set_option maxRecDepth 2000 in
  have hidle : (served failing).isIdle = true := by with_unfolding_all decide
  have hidle' : (served answering).isIdle = true := by with_unfolding_all decide
  have hrefused : (served failing).log.countP (·.isRefused) = 1 := by with_unfolding_all decide
  have hlost : (served failing).log.countP (·.isLost) = 1 := by with_unfolding_all decide
  have hexecuted : (served failing).executed.filter (fun e => !bot.config.identitySync.excludes e.2) =
      [("1", "ping"), ("2", "ping")] := by with_unfolding_all decide
  have haccepted : (served answering).log.filterMap (·.accepted?) = ["1"] := by with_unfolding_all decide
  obtain ⟨hsyncs, -, -, -, hfailures, hothers⟩ := haccounts (events failing) hidle
  obtain ⟨-, -, -, hsynced, -, -⟩ := haccounts (events answering) hidle'
  obtain ⟨hresult, -, -⟩ := hisolated (events failing) (events answering) rfl
  simp only [hserved] at hsyncs hfailures hothers hsynced hresult
  refine ⟨hidle, ?_, ?_, hidle', ?_, hresult 0⟩
  · rw [← hexecuted]
    exact hsyncs (by decide)
  · rw [hfailures, hrefused, hlost, hothers rfl]
    rfl
  · rw [hsynced, haccepted]
    rfl

end Bot

end ChatBot
