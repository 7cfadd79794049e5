/-
  ChatBot.Proofs.Detail.Commands — commands that differ in the detail of errors.

  Programs are alike when they make the same requests, also after answers that are only
  alike, and end in the same way or with errors that are alike (`Program.Alike`). A program
  that passes on the errors it gets is like itself; one that reads their text is not.

  Commands are alike when their programs are, and those of the commands they delegate to,
  and nothing else differs. In registries of such commands a text calls commands that are
  alike, in the same way (`Registry.resolve_alike`).
-/
import ChatBot.Proofs.Detail.States

namespace ChatBot

open Text

/-! ## Programs -/

inductive Program.Alike : Program → Program → Prop
  | done : Alike .done .done
  | fail {e e' : CommandError} : e.Alike e' → Alike (.fail e) (.fail e')
  | send (channel : String) (message : OutgoingMessage) {next next' : Except OutputError SentMessage → Program} :
    (∀ x y, State.ChatAnswers x y → Alike (next x) (next' y)) →
    Alike (.send channel message next) (.send channel message next')
  | startTyping (channel : String) {next next' : Except OutputError Unit → Program} :
    (∀ x y, State.ChatAnswers x y → Alike (next x) (next' y)) →
    Alike (.startTyping channel next) (.startTyping channel next')
  | resolve (options : ResolverOptions) {next next' : Except CommandError ResolvedMentions → Program} :
    (∀ x y, AnswersAlike x y → Alike (next x) (next' y)) → Alike (.resolve options next) (.resolve options next')
  | sleep (milliseconds : Nat) {next next' : Program} :
    Alike next next' → Alike (.sleep milliseconds next) (.sleep milliseconds next')
  | lookup (name : String) {next next' : Option CommandInfo → Program} :
    (∀ info, Alike (next info) (next' info)) → Alike (.lookup name next) (.lookup name next')
  | keepIdentity (identity : LocalIdentity) {next next' : Program} :
    Alike next next' → Alike (.keepIdentity identity next) (.keepIdentity identity next')
  | disable (guild command : String) (devOnly : Bool) {next next' : Program} :
    Alike next next' → Alike (.disable guild command devOnly next) (.disable guild command devOnly next')
  | enable (guild command : String) {next next' : Bool → Program} :
    (∀ was, Alike (next was) (next' was)) → Alike (.enable guild command next) (.enable guild command next')
  | note (entry : Note) {next next' : Program} : Alike next next' → Alike (.note entry next) (.note entry next')

namespace Program

/-- A reply that fails passes the error of the chat on. -/
theorem reply_alike (ctx : Context) (message : OutgoingMessage) {next next' : SentMessage → Program}
    (h : ∀ sent, (next sent).Alike (next' sent)) : (reply ctx message next).Alike (reply ctx message next') := by
  refine .send _ _ fun x y hxy => ?_
  cases hxy with
  | ok hab => exact hab ▸ h _
  | error hed => exact .fail (CommandError.ofOutput_alike _ _)

theorem say_alike (ctx : Context) (text : String) : (say ctx text).Alike (say ctx text) :=
  reply_alike ctx ⟨text, none⟩ fun _ => .done

/-- Nobody to be about passes the resolver's error on. -/
theorem withMentions_alike (options : ResolverOptions) {next next' : ResolvedMentions → Program}
    (h : ∀ mentions, (next mentions).Alike (next' mentions)) :
    (withMentions options next).Alike (withMentions options next') := by
  refine .resolve _ fun x y hxy => ?_
  cases hxy with
  | ok hab => exact hab ▸ h _
  | error hed => exact .fail hed

end Program

/-! ## Commands and nodes -/

inductive Command.Alike : Command → Command → Prop
  | intro {c d : Command} (info : c.info = d.info) (schema : c.schema = d.schema) (rules : c.rules = d.rules)
    (loadingAfter : c.loadingAfter = d.loadingAfter)
    (programs : ∀ part ctx, (c.handler.program part ctx).Alike (d.handler.program part ctx))
    (conditions : List.Forall₂ (fun x y => x.1 = y.1) c.delegates d.delegates)
    (targets : ∀ p ∈ c.delegates.zip d.delegates, Alike p.1.2 p.2.2) : Alike c d

namespace Command

theorem Alike.info {c d : Command} (h : c.Alike d) : c.info = d.info := by
  cases h with
  | intro info => exact info

/-- The same rule hands over, to targets in the same place. -/
theorem delegateFor_alike {c d : Command} (h : List.Forall₂ (fun x y => x.1 = y.1) c.delegates d.delegates)
    (args : ParsedArgs) :
    Option.Rel (fun x y => x.1 = y.1 ∧ (x, y) ∈ c.delegates.zip d.delegates) (c.delegateFor args)
      (d.delegateFor args) := by
  refine List.Forall₂.find? ?_ fun x y hxy => by rw [hxy.1]
  exact List.forall₂_iff_zip.mpr ⟨h.length_eq, fun hp => ⟨List.forall₂_zip h hp, hp⟩⟩

end Command

structure ParentCommand.Alike (p q : ParentCommand) : Prop where
  command : p.command.Alike q.command
  children : List.Forall₂ Command.Alike p.children q.children
  defaultChild : p.defaultChild = q.defaultChild
  direct : p.direct = q.direct
  abbreviationMin : p.abbreviationMin = q.abbreviationMin

inductive Node.Alike : Node → Node → Prop
  | leaf {c d : Command} : c.Alike d → Alike (.leaf c) (.leaf d)
  | parent {p q : ParentCommand} : p.Alike q → Alike (.parent p) (.parent q)
  | child {c d p q : Command} : c.Alike d → p.Alike q → Alike (.child c p) (.child d q)

namespace Node

variable {n m : Node}

theorem Alike.command (h : n.Alike m) : n.command.Alike m.command := by
  cases h with
  | leaf hc => exact hc
  | parent hp => exact hp.command
  | child hc _ => exact hc

theorem Alike.info (h : n.Alike m) : n.command.info = m.command.info := h.command.info

theorem Alike.parent_info (h : n.Alike m) : n.parent?.map (·.info) = m.parent?.map (·.info) := by
  cases h with
  | leaf _ => rfl
  | parent _ => rfl
  | child _ hp => exact congrArg some hp.info

end Node

namespace ParentCommand

variable {p q : ParentCommand}

/-- A child and the variation that selected it. -/
def Selects (x y : Command × Option Variation) : Prop := x.1.Alike y.1 ∧ x.2 = y.2

theorem live_alike (h : p.Alike q) : List.Forall₂ Command.Alike p.live q.live :=
  h.children.filter fun c d hcd => by rw [hcd.info]

theorem findChild_alike (h : p.Alike q) (name : String) :
    Option.Rel Command.Alike (p.findChild name) (q.findChild name) :=
  h.children.find? fun c d hcd => by rw [hcd.info]

theorem abbreviated_alike (h : p.Alike q) (token : String) :
    Option.Rel Command.Alike (p.abbreviated token) (q.abbreviated token) := by
  unfold abbreviated
  rw [h.abbreviationMin]
  split
  · exact .none
  split
  · exact .none
  have hbegins := (live_alike h).filter (p := fun c => (lower token).toList.isPrefixOf (lower c.name).toList)
    (q := fun c => (lower token).toList.isPrefixOf (lower c.name).toList)
    fun c d hcd => by rw [Command.name, hcd.info, Command.name]
  generalize p.live.filter _ = l at hbegins ⊢
  generalize q.live.filter _ = m at hbegins ⊢
  cases hbegins with
  | nil => exact .none
  | cons hcd hrest =>
    cases hrest with
    | nil => exact .some hcd
    | cons _ _ => exact .none

theorem matchChild_alike (h : p.Alike q) (token : String) :
    Option.Rel Selects (p.matchChild token) (q.matchChild token) := by
  have hname := (live_alike h).find? (p := (·.info.hasName token)) (q := (·.info.hasName token))
    fun c d hcd => by rw [hcd.info]
  have halias := (live_alike h).find? (p := (·.info.hasAlias token)) (q := (·.info.hasAlias token))
    fun c d hcd => by rw [hcd.info]
  have hvariation : Option.Rel (fun x y => x.1.Alike y.1 ∧ x.2 = y.2)
      (p.live.findSome? fun c => (c.info.variationFor token).map fun v => (c, v))
      (q.live.findSome? fun c => (c.info.variationFor token).map fun v => (c, v)) := by
    refine (live_alike h).findSome? fun c d hcd => ?_
    rw [hcd.info]
    cases d.info.variationFor token with
    | none => exact .none
    | some v => exact .some ⟨hcd, rfl⟩
  unfold matchChild
  generalize p.live.find? (·.info.hasName token) = byName at hname ⊢
  generalize q.live.find? (·.info.hasName token) = byName' at hname ⊢
  cases hname with
  | some hcd => exact .some ⟨hcd, rfl⟩
  | none =>
    generalize p.live.find? (·.info.hasAlias token) = byAlias at halias ⊢
    generalize q.live.find? (·.info.hasAlias token) = byAlias' at halias ⊢
    cases halias with
    | some hcd => exact .some ⟨hcd, rfl⟩
    | none =>
      generalize p.live.findSome? _ = byVariation at hvariation ⊢
      generalize q.live.findSome? _ = byVariation' at hvariation ⊢
      cases hvariation with
      | some hcd => exact .some ⟨hcd.1, congrArg some hcd.2⟩
      | none => exact (abbreviated_alike h token).map fun c d hcd => ⟨hcd, rfl⟩

end ParentCommand

/-! ## What a text calls -/

namespace Registry

variable {r r' : Registry}

/-- The nodes differ in the detail of their programs' errors. -/
def Alike (r r' : Registry) : Prop := List.Forall₂ Node.Alike r.nodes r'.nodes

/-- A node and the variation that selected it. -/
def Finds (x y : Node × Option Variation) : Prop := x.1.Alike y.1 ∧ x.2 = y.2

theorem matchNode_alike {n m : Node} (h : n.Alike m) (stage : Stage) (token : String) :
    Option.Rel Finds (matchNode stage token n) (matchNode stage token m) := by
  have hanswer : ∀ {c d : CommandInfo} {x y : Node}, c = d → x.Alike y →
      Option.Rel Finds ((answers stage c token).map fun v => (x, v)) ((answers stage d token).map fun v => (y, v)) := by
    rintro c _ x y rfl hxy
    cases answers stage c token with
    | none => exact .none
    | some v => exact .some ⟨hxy, rfl⟩
  refine Option.Rel.orElse ?_ ?_
  · rw [h.info]
    split
    · exact .none
    · exact hanswer rfl h
  · cases h with
    | leaf _ => exact .none
    | child _ _ => exact .none
    | @parent p q hp =>
      refine hp.children.findSome? fun c d hcd => ?_
      have hdirect : p.isDirect c = q.isDirect d := by
        rw [ParentCommand.isDirect, ParentCommand.isDirect, hp.direct, Command.name, Command.name, hcd.info]
      rw [hdirect, hcd.info]
      split
      · exact .none
      · exact hanswer rfl (.child hcd hp.command)

theorem matchFirst_alike (h : r.Alike r') (token : String) :
    Option.Rel Finds (r.matchFirst token) (r'.matchFirst token) := by
  have hstages : ∀ l : List Stage, List.Forall₂ Eq l l := fun l => List.forall₂_same.mpr fun _ _ => rfl
  refine (hstages _).findSome? ?_
  rintro stage _ rfl
  exact List.Forall₂.findSome? h fun n m hnm => matchNode_alike hnm stage token

theorem descend_alike {n m : Node} (h : n.Alike m) (second : Option String) (variation : Option Variation) :
    (descend second n variation).1.Alike (descend second m variation).1 ∧
      (descend second n variation).2 = (descend second m variation).2 := by
  cases h with
  | leaf hc => exact ⟨.leaf hc, rfl⟩
  | child hc hp => exact ⟨.child hc hp, rfl⟩
  | @parent p q hp =>
    have hnamed : Option.Rel ParentCommand.Selects (second.bind p.matchChild) (second.bind q.matchChild) := by
      cases second with
      | none => exact .none
      | some token => exact ParentCommand.matchChild_alike hp token
    have hdefault : Option.Rel Command.Alike (p.defaultChild.bind p.findChild) (q.defaultChild.bind q.findChild) := by
      rw [hp.defaultChild]
      cases q.defaultChild with
      | none => exact .none
      | some name => exact ParentCommand.findChild_alike hp name
    dsimp only [descend]
    generalize second.bind p.matchChild = named at hnamed ⊢
    generalize second.bind q.matchChild = named' at hnamed ⊢
    cases hnamed with
    | @some x y hxy =>
      obtain ⟨c, v⟩ := x
      obtain ⟨d, w⟩ := y
      obtain ⟨hcd, rfl⟩ := hxy
      exact ⟨.child hcd hp.command, rfl⟩
    | none =>
      generalize p.defaultChild.bind p.findChild = standard at hdefault ⊢
      generalize q.defaultChild.bind q.findChild = standard' at hdefault ⊢
      cases hdefault with
      | some hcd => exact ⟨.child hcd hp.command, rfl⟩
      | none => exact ⟨.parent hp, rfl⟩

/-- The same words call commands that are alike. -/
structure Resolution.Alike (x y : Resolution) : Prop where
  node : x.node.Alike y.node
  consumed : x.consumed = y.consumed
  variation : x.variation = y.variation
  invocation : x.invocation = y.invocation

theorem resolve_alike (h : r.Alike r') (text : String) :
    Agree Eq Resolution.Alike (r.resolve text) (r'.resolve text) := by
  unfold resolve
  cases (tokenize text).map Token.text with
  | nil => exact .error rfl
  | cons first rest =>
    dsimp only
    have hmatch := matchFirst_alike h first
    generalize r.matchFirst first = found at hmatch ⊢
    generalize r'.matchFirst first = found' at hmatch ⊢
    cases hmatch with
    | none => exact .error rfl
    | @some x y hxy =>
      obtain ⟨n, v⟩ := x
      obtain ⟨m, w⟩ := y
      obtain ⟨hnm, rfl⟩ := hxy
      have hbelow := descend_alike hnm rest.head? v
      dsimp only at hbelow ⊢
      generalize descend rest.head? n v = below at hbelow ⊢
      generalize descend rest.head? m v = below' at hbelow ⊢
      obtain ⟨hnode, hrest⟩ := hbelow
      obtain ⟨node, count, variation⟩ := below
      obtain ⟨node', _⟩ := below'
      obtain rfl := hrest
      exact .ok ⟨hnode, rfl, rfl, rfl⟩

/-- A look-up answers with what is declared of a command, in which there is no detail. -/
theorem lookup_info_eq (h : r.Alike r') (name : String) :
    (r.lookup name).map (·.command.info) = (r'.lookup name).map (·.command.info) := by
  have hfound : Option.Rel Node.Alike (r.lookup name) (r'.lookup name) :=
    List.Forall₂.find? h fun n m hnm => by rw [hnm.info]
  exact hfound.map_eq fun n m hnm => hnm.info

theorem suggest_eq (h : r.Alike r') (typed : String) : r.suggest typed = r'.suggest typed := by
  have hnames : r.visibleNames = r'.visibleNames := by
    have hvisible := List.Forall₂.filter (p := (·.command.info.isVisible)) (q := (·.command.info.isVisible)) h
      fun n m hnm => by rw [hnm.info]
    have hinfos := hvisible.map_eq (f := (·.command.info.names)) (g := (·.command.info.names))
      fun n m hnm => by rw [hnm.info]
    rw [visibleNames, visibleNames, List.flatMap_def, List.flatMap_def, hinfos]
  rw [suggest, suggest, hnames]

end Registry

end ChatBot
