/-
  ChatBot.Proofs.Demo.Commands — the commands of the demonstration bot are tame.

  Two of them contain an internal error. A toggle fails so without the registry, which it has
  once the bot is built. Going back fails so without the start of a period; but its argument is
  always read as a period, and its rule refuses a period without a start.
-/
import ChatBot.Demo.Commands
import ChatBot.Proofs.Argument.Flags
import ChatBot.Proofs.Pipeline.Calm

namespace ChatBot

/-- A command is tame if its programs are, whatever its arguments, and those are that run in its place. -/
theorem Command.Tame.of_programs {c : Command} (h : ∀ ctx part, (c.handler.program part ctx).Tame)
    (hd : ∀ d ∈ c.delegates, d.2.Tame) : c.Tame :=
  .intro (fun _ _ _ part => h _ part) hd

/-- The same when nothing is checked before the run, and the run may rely on the rules. -/
theorem Command.Tame.of_ruled_run {c : Command} {run : Context → Program} (hc : c.handler = .ofRun run)
    (h : ∀ (ctx : Context) (today : Instant), ValidationRule.checkAll c.rules (ctx.reading c today).args = .ok () →
      (run (ctx.reading c today)).Tame)
    (hd : ∀ d ∈ c.delegates, d.2.Tame) : c.Tame := by
  refine .intro (fun ctx today hrules part => ?_) hd
  rw [hc]
  cases part with
  | prerun => exact .done
  | run => exact h ctx today hrules

theorem Command.Tame.of_run {c : Command} {run : Context → Program} (hc : c.handler = .ofRun run)
    (h : ∀ ctx, (run ctx).Tame) (hd : ∀ d ∈ c.delegates, d.2.Tame) : c.Tame :=
  .of_ruled_run hc (fun _ _ _ => h _) hd

namespace Context

variable (ctx : Context) (c : Command) (today : Instant)

theorem args_reading : (ctx.reading c today).args = c.schema.parse today ctx.invocation := rfl

theorem message_reading : (ctx.reading c today).message = ctx.message := rfl

theorem command_reading : (ctx.reading c today).command = ctx.command := rfl

theorem parent_reading : (ctx.reading c today).parent = ctx.parent := rfl

end Context

namespace Demo

open Program (tame_say tame_withMentions)

theorem tame_scrobbles : scrobbles.Tame :=
  .of_run rfl (fun _ => tame_withMentions fun _ => tame_say _ _) nofun

theorem tame_rank : rank.Tame :=
  .of_run rfl (fun _ => tame_withMentions fun _ => tame_say _ _) nofun

theorem tame_cover : cover.Tame := by
  refine .of_run rfl (fun ctx => ?_) nofun
  unfold runCover
  split
  · exact tame_say _ _
  · exact .fail (by decide)

theorem tame_recent : recent.Tame :=
  .of_run rfl (fun _ => tame_say _ _) nofun

theorem tame_reacts : reacts.Tame := by
  refine .of_run rfl (fun ctx => ?_) fun d hd => ?_
  · unfold runReacts
    split
    · exact .fail (by decide)
    · exact tame_say _ _
  · obtain rfl := List.mem_singleton.mp hd
    exact .of_run rfl (fun _ => tame_say _ _) nofun

theorem tame_rating (info : CommandInfo) (action : String) : (Command.simple info (.ofRun (runRating action))).Tame :=
  .of_run rfl (fun _ => tame_say _ _) nofun

theorem tame_login : login.Tame := by
  refine .of_run rfl (fun ctx => ?_) nofun
  unfold runLogin
  split
  · exact .fail (by decide)
  · rename_i username _
    exact .keepIdentity (tame_say ctx ("Logged in as " ++ username))

/-- The argument of `goback` is a period, all of time if the user names none. -/
theorem period_of_goBack (ctx : Context) (today : Instant) :
    ∃ p, (ctx.reading goBack today).args.get? "timeRange" = some (.period p) := by
  rw [Context.args_reading, Schema.parse, Schema.get?_parseText, Schema.slotValue?]
  generalize Flag.plainWords goBack.schema.flags ctx.invocation.argsText = words
  let found := Schema.findMentions goBack.schema.mentions words
  let given := period.2.capture (Schema.inputWords words found.used)
  let p := (TimeRange.parse (given.getD "") today).getD .overall
  have hslots : goBack.schema.slotValues today words =
      (found.targets.map fun t => (t.1, ArgValue.mention t.2)) ++ [("timeRange", .period p)] := rfl
  refine ⟨p, ?_⟩
  rw [hslots, Dict.get?_ofList, List.reverse_append]
  rfl

theorem check_eq_ok {rule : ValidationRule} {args : ParsedArgs} :
    rule.check args = .ok () ↔ rule.validator.violation (args.get? rule.argument) = none := by
  rw [ValidationRule.check]
  cases rule.validator.violation (args.get? rule.argument) <;> simp

/-- A period that has to have a start, where one without a start counts as none. -/
theorem exists_start_of_checkPeriod {p : TimeRange} (h : Validator.checkPeriod true true p = none) :
    ∃ start, p.start = some start := by
  cases hstart : p.start with
  | some start => exact ⟨start, rfl⟩
  | none => simp [Validator.checkPeriod, hstart, TimeRange.overall] at h

/-- The rule of `goback` asks for the start that its run needs. -/
theorem tame_runGoBack {ctx : Context} (hread : ∃ p, ctx.args.get? "timeRange" = some (.period p))
    (hrules : ValidationRule.checkAll goBack.rules ctx.args = .ok ()) : (runGoBack ctx).Tame := by
  obtain ⟨p, hp⟩ := hread
  have hrule : Validator.violation (.timeRange true true) (ctx.args.get? "timeRange") = none :=
    check_eq_ok.mp (ValidationRule.checkAll_eq_ok.mp hrules
      ⟨"timeRange", .timeRange true true, some "time period"⟩ (.head _))
  rw [hp] at hrule
  obtain ⟨start, hstart⟩ := exists_start_of_checkPeriod hrule
  have hperiod : ctx.args.period? "timeRange" = some p := by rw [ParsedArgs.period?, hp]
  rw [runGoBack, hperiod, Option.getD_some, hstart]
  exact tame_say _ _

theorem tame_goBack : goBack.Tame :=
  .of_ruled_run rfl (fun ctx today hrules => tame_runGoBack (period_of_goBack ctx today) hrules) nofun

theorem tame_checkServer (ctx : Context) : (checkServer ctx).Tame := by
  unfold checkServer
  split
  · exact .fail (by decide)
  · exact .done

theorem tame_applyToggle (t : Toggle) (ctx : Context) (target : CommandInfo) : (applyToggle t ctx target).Tame := by
  cases t with
  | disable => exact .disable (tame_say _ _)
  | enable =>
    refine .enable fun was => ?_
    split <;> exact tame_say _ _

/-- With the registry at hand a toggle fails for the user's mistakes only. -/
theorem tame_toggle (t : Toggle) : (toggle .filled t).Tame := by
  refine .of_programs (fun ctx part => ?_) nofun
  cases part with
  | prerun => exact tame_checkServer ctx
  | run =>
    refine .lookup fun found => ?_
    cases found with
    | none => exact .fail (by simp [CommandError.kind])
    | some target =>
      dsimp only
      split
      · exact .fail (by decide)
      · exact tame_applyToggle t ctx target

theorem tame_eval : eval.Tame := .of_run rfl (fun _ => tame_say _ _) nofun

/-- Every command of the bot is tame, once the toggles find the registry. -/
theorem tame_nodes : ∀ node ∈ nodes .filled, ∀ entry ∈ node.entries, entry.command.Tame := by
  simp only [nodes, Node.entries, rateYourMusic, List.forall_mem_cons, List.map_cons, List.map_nil, Node.command]
  simp only [tame_scrobbles, tame_rank, tame_cover, tame_recent, tame_reacts, tame_rating, tame_goBack, tame_login,
    tame_toggle, tame_eval, true_and]
  simp

end Demo

end ChatBot
