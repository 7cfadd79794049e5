/-
  ChatBot.Proofs.Registry.History — what any course of registrations leaves.

  A registration is taken or refused, and a refused one changes nothing. Whatever was
  offered, the names that are taken are those under which the registered commands are
  called directly, in lowercase and each once; and every registered command is found under
  its id, which no other has (`coherent_ofOffers`).
-/
import Mathlib.Data.List.Nodup
import ChatBot.Command.Registry
import ChatBot.Proofs.Dict

namespace ChatBot

open Text

namespace Registry

variable {r r' : Registry} {node : Node}

/-! ## One registration -/

theorem checkIds_eq_ok {seen : List CommandId} {ns : List Node} : r.checkIds seen ns = .ok () ↔
    (∀ n ∈ ns, isBlankText n.command.info.seed = false ∧ r.byId.get? n.command.id = none ∧ n.command.id ∉ seen) ∧
      (ns.map (·.command.id)).Nodup := by
  induction ns generalizing seen with
  | nil => simp [checkIds]
  | cons n ns ih =>
    rw [checkIds, List.forall_mem_cons, List.map_cons, List.nodup_cons]
    split
    · rename_i hblank
      simp [hblank]
    rename_i hseed
    rw [Bool.not_eq_true] at hseed
    split
    · rename_i taken htaken
      have : r.byId.get? n.command.id = some taken := htaken
      simp [this]
    rename_i hnew
    have hnew : r.byId.get? n.command.id = none := hnew
    split
    · rename_i hseen
      have : n.command.id ∈ seen := List.contains_iff_mem.mp hseen
      simp [this]
    rename_i hseen
    have hseen : n.command.id ∉ seen := fun h => hseen (List.contains_iff_mem.mpr h)
    rw [ih]
    -- the id of the first command is among those seen by the others
    constructor
    · rintro ⟨hall, hnodup⟩
      refine ⟨⟨⟨hseed, hnew, hseen⟩, fun m hm => ?_⟩, fun hmem => ?_, hnodup⟩
      · obtain ⟨h1, h2, h3⟩ := hall m hm
        exact ⟨h1, h2, fun h => h3 (List.mem_cons_of_mem _ h)⟩
      · obtain ⟨m, hm, he⟩ := List.mem_map.mp hmem
        exact (hall m hm).2.2 (he ▸ List.mem_cons_self)
    · rintro ⟨⟨-, hall⟩, hfirst, hnodup⟩
      refine ⟨fun m hm => ?_, hnodup⟩
      obtain ⟨h1, h2, h3⟩ := hall m hm
      refine ⟨h1, h2, fun h => ?_⟩
      rcases List.mem_cons.mp h with he | h
      · exact hfirst (List.mem_map.mpr ⟨m, hm, he⟩)
      · exact h3 h

theorem checkNames_eq_ok {seen taken ns : List String} : r.checkNames seen ns = .ok taken ↔
    taken = seen ++ ns.map lower ∧ (∀ n ∈ ns, lower n ∉ r.names ∧ lower n ∉ seen) ∧ (ns.map lower).Nodup := by
  induction ns generalizing seen with
  | nil => simp [checkNames, eq_comm]
  | cons n ns ih =>
    rw [checkNames, List.forall_mem_cons, List.map_cons, List.nodup_cons]
    split
    · rename_i hused
      rw [Bool.or_eq_true, List.contains_iff_mem, List.contains_iff_mem] at hused
      rcases hused with h | h <;> simp [h]
    rename_i hfree
    rw [Bool.or_eq_true, List.contains_iff_mem, List.contains_iff_mem, not_or] at hfree
    rw [ih, List.append_assoc, List.singleton_append]
    constructor
    · rintro ⟨rfl, hall, hnodup⟩
      refine ⟨rfl, ⟨hfree, fun m hm => ⟨(hall m hm).1, fun h => (hall m hm).2 (List.mem_append_left _ h)⟩⟩,
        fun hmem => ?_, hnodup⟩
      obtain ⟨m, hm, he⟩ := List.mem_map.mp hmem
      exact (hall m hm).2 (List.mem_append_right _ (he ▸ List.mem_singleton_self _))
    · rintro ⟨rfl, ⟨-, hall⟩, hfirst, hnodup⟩
      refine ⟨rfl, fun m hm => ⟨(hall m hm).1, fun h => ?_⟩, hnodup⟩
      rcases List.mem_append.mp h with h | h
      · exact (hall m hm).2 h
      · exact hfirst (List.mem_map.mpr ⟨m, hm, List.mem_singleton.mp h⟩)

/-- What a node must bring to be registered. -/
structure Accepts (r : Registry) (node : Node) : Prop where
  seeds : ∀ e ∈ node.entries, isBlankText e.command.info.seed = false
  new_ids : ∀ e ∈ node.entries, r.byId.get? e.command.id = none
  ids_nodup : (node.entries.map (·.command.id)).Nodup
  new_names : ∀ n ∈ directNames node, lower n ∉ r.names
  names_nodup : ((directNames node).map lower).Nodup

/-- The registry with one more node. -/
def add (r : Registry) (node : Node) : Registry where
  nodes := r.nodes ++ [node]
  byId := node.entries.foldl (fun d e => d.insert e.command.id e) r.byId
  names := r.names ++ (directNames node).map lower

theorem check_eq_ok {taken : List String} :
    r.check node = .ok taken ↔ r.Accepts node ∧ taken = (directNames node).map lower := by
  have hbind : r.check node = .ok taken ↔
      r.checkIds [] node.entries = .ok () ∧ r.checkNames [] (directNames node) = .ok taken := by
    unfold check
    cases r.checkIds [] node.entries <;> simp [bind, Except.bind]
  rw [hbind, checkIds_eq_ok, checkNames_eq_ok]
  constructor
  · rintro ⟨⟨hall, hnodup⟩, rfl, hnew, hnames⟩
    exact ⟨⟨fun e he => (hall e he).1, fun e he => (hall e he).2.1, hnodup, fun n hn => (hnew n hn).1, hnames⟩, rfl⟩
  · rintro ⟨h, rfl⟩
    exact ⟨⟨fun e he => ⟨h.seeds e he, h.new_ids e he, List.not_mem_nil⟩, h.ids_nodup⟩,
      rfl, fun n hn => ⟨h.new_names n hn, List.not_mem_nil⟩, h.names_nodup⟩

theorem foldl_index (ns : List Node) (r : Registry) :
    ns.foldl index r = { r with byId := ns.foldl (fun d n => d.insert n.command.id n) r.byId } := by
  induction ns generalizing r with
  | nil => rfl
  | cons n ns ih => exact ih (r.index n)

/-- Once the checks have passed nothing stops the entries from being written. -/
theorem run_forM_index (ns : List Node) (r : Registry) (next : ExceptT RegistryError (StateM Registry) Unit) :
    ((do ns.forM fun n => modify (·.index n); next : ExceptT RegistryError (StateM Registry) Unit).run.run r).run =
      (next.run.run (ns.foldl index r)).run := by
  induction ns generalizing r with
  | nil => rfl
  | cons n ns ih => exact ih (r.index n)

/-- A node that is accepted is added; any other leaves the registry as it was. -/
theorem enrolled_eq (r : Registry) (node : Node) : (r.Accepts node ∧ r.enrolled node = (.ok (), r.add node)) ∨
    (¬ r.Accepts node ∧ ∃ e, r.enrolled node = (.error e, r)) := by
  have hrun : r.enrolled node = ((do
      let names ← ofExcept (r.check node)
      node.entries.forM fun n => modify (·.index n)
      modify fun r => { r with names := r.names ++ names }
      modify fun r => { r with nodes := r.nodes ++ [node] } :
        ExceptT RegistryError (StateM Registry) Unit).run.run r).run := rfl
  cases hcheck : r.check node with
  | error e =>
    refine .inr ⟨fun h => ?_, e, by rw [hrun, hcheck]; rfl⟩
    cases hcheck.symm.trans (check_eq_ok.mpr ⟨h, rfl⟩)
  | ok names =>
    obtain ⟨h, rfl⟩ := check_eq_ok.mp hcheck
    refine .inl ⟨h, ?_⟩
    rw [hrun, hcheck]
    refine (run_forM_index node.entries r _).trans ?_
    rw [foldl_index]
    rfl

theorem register_eq_ok : r.register node = .ok r' ↔ r.Accepts node ∧ r' = r.add node := by
  unfold register
  rcases enrolled_eq r node with ⟨h, heq⟩ | ⟨h, e, heq⟩
  · rw [heq]
    exact ⟨fun hr => ⟨h, (Except.ok.inj hr).symm⟩, fun hr => congrArg Except.ok hr.2.symm⟩
  · rw [heq]
    refine ⟨fun hr => ?_, fun hr => absurd hr.1 h⟩
    cases hr

/-! ## Many registrations -/

/-- The registry after a node was offered: refused, it changes nothing. -/
def offer (r : Registry) (node : Node) : Registry :=
  match r.register node with
  | .ok r' => r'
  | .error _ => r

theorem offer_accepted (h : r.Accepts node) : r.offer node = r.add node := by
  rw [offer, register_eq_ok.mpr ⟨h, rfl⟩]

/-- What a course of registrations leaves. -/
def ofOffers (offered : List Node) : Registry := offered.foldl offer empty

theorem ofOffers_concat (offered : List Node) (node : Node) :
    ofOffers (offered ++ [node]) = (ofOffers offered).offer node := by
  rw [ofOffers, List.foldl_append]
  rfl

theorem ofOffers_register {offered : List Node} (h : (ofOffers offered).register node = .ok r) :
    r = ofOffers (offered ++ [node]) := by
  rw [ofOffers_concat, offer, h]

/-- Nodes that are registered together are registered one after another, and none is refused. -/
theorem ofNodes_eq_ok {nodes : List Node} (h : ofNodes nodes = .ok r) : r = ofOffers nodes ∧ r.nodes = nodes := by
  have hfold : ∀ (nodes : List Node) (r₀ : Registry), nodes.foldlM register r₀ = .ok r →
      r = nodes.foldl offer r₀ ∧ r.nodes = r₀.nodes ++ nodes := by
    intro nodes
    induction nodes with
    | nil =>
      intro r₀ h
      obtain rfl : r₀ = r := Except.ok.inj h
      exact ⟨rfl, (List.append_nil _).symm⟩
    | cons node nodes ih =>
      intro r₀ h
      obtain ⟨r₁, hr₁, hrest⟩ := bind_eq_ok.mp h
      obtain ⟨hacc, rfl⟩ := register_eq_ok.mp hr₁
      obtain ⟨hoffers, hnodes⟩ := ih _ hrest
      refine ⟨?_, ?_⟩
      · rw [List.foldl_cons, offer_accepted hacc, hoffers]
      · rw [hnodes, add, List.append_assoc]
        rfl
  exact hfold nodes empty h

/-- What holds of the empty registry, and after a registration if it held before, holds of
    whatever was offered. -/
theorem ofOffers_induction {P : Registry → Prop} (hempty : P empty)
    (hadd : ∀ (r : Registry) (node : Node), P r → r.Accepts node → P (r.add node)) (offered : List Node) :
    P (ofOffers offered) := by
  have hoffer : ∀ (r : Registry) (node : Node), P r → P (r.offer node) := by
    intro r node hr
    unfold offer
    split
    · rename_i r' h
      obtain ⟨hacc, rfl⟩ := register_eq_ok.mp h
      exact hadd r node hr hacc
    · exact hr
  unfold ofOffers
  generalize empty = r at hempty
  induction offered generalizing r with
  | nil => exact hempty
  | cons node offered ih => exact ih _ (hoffer r node hempty)

/-! ## What they leave -/

/-- Every registered command, children after their parent. -/
def entries (r : Registry) : List Node := r.nodes.flatMap Node.entries

/-- The names and ids that are kept are those of the registered commands. -/
structure Coherent (r : Registry) : Prop where
  names : r.names = (r.nodes.flatMap directNames).map lower
  names_nodup : r.names.Nodup
  byId : r.byId.entries = r.entries.map fun e => (e.command.id, e)
  ids_nodup : r.byId.keys.Nodup

theorem Coherent.nodup_ids (hr : r.Coherent) : (r.entries.map (·.command.id)).Nodup := by
  have hkeys : r.byId.keys = r.entries.map (·.command.id) := by
    rw [Dict.keys, hr.byId, List.map_map]
    rfl
  exact hkeys ▸ hr.ids_nodup

theorem entries_add (r : Registry) (node : Node) : (r.add node).entries = r.entries ++ node.entries := by
  rw [entries, add, List.flatMap_append, List.flatMap_singleton]
  rfl

theorem entries_insert_new {es : List Node} (hn : (es.map (·.command.id)).Nodup) {d : Dict CommandId Node}
    (h : ∀ e ∈ es, d.get? e.command.id = none) :
    (es.foldl (fun d e => d.insert e.command.id e) d).entries = d.entries ++ es.map fun e => (e.command.id, e) := by
  induction es generalizing d with
  | nil => simp
  | cons e es ih =>
    rw [List.map_cons, List.nodup_cons] at hn
    have hput : (d.insert e.command.id e).entries = d.entries ++ [(e.command.id, e)] :=
      Dict.put_new (h e List.mem_cons_self)
    have hrest : ∀ e' ∈ es, (d.insert e.command.id e).get? e'.command.id = none := by
      intro e' he'
      rw [Dict.get?_insert, if_neg (fun he => hn.1 (List.mem_map.mpr ⟨e', he', he⟩))]
      exact h e' (List.mem_cons_of_mem _ he')
    rw [List.foldl_cons, ih hn.2 hrest, hput, List.append_assoc, List.map_cons, List.singleton_append]

theorem Coherent.add (hr : r.Coherent) (h : r.Accepts node) : (r.add node).Coherent := by
  have hbyId : (r.add node).byId.entries = r.byId.entries ++ node.entries.map fun e => (e.command.id, e) :=
    entries_insert_new h.ids_nodup h.new_ids
  refine ⟨?_, ?_, ?_, ?_⟩
  · show r.names ++ (directNames node).map lower = ((r.nodes ++ [node]).flatMap directNames).map lower
    rw [hr.names, List.flatMap_append, List.flatMap_singleton, List.map_append]
  · refine List.nodup_append.mpr ⟨hr.names_nodup, h.names_nodup, ?_⟩
    rintro taken htaken new hnew rfl
    obtain ⟨n, hn, rfl⟩ := List.mem_map.mp hnew
    exact h.new_names n hn htaken
  · rw [hbyId, hr.byId, entries_add, List.map_append]
  · have hkeys : (r.add node).byId.keys = r.byId.keys ++ node.entries.map (·.command.id) := by
      rw [Dict.keys, hbyId, List.map_append, List.map_map]
      rfl
    rw [hkeys]
    refine List.nodup_append.mpr ⟨hr.ids_nodup, h.ids_nodup, ?_⟩
    rintro id hid new hnew rfl
    obtain ⟨e, he, rfl⟩ := List.mem_map.mp hnew
    exact Dict.get?_eq_none.mp (h.new_ids e he) hid

theorem coherent_ofOffers (offered : List Node) : (ofOffers offered).Coherent :=
  ofOffers_induction ⟨rfl, List.nodup_nil, rfl, List.nodup_nil⟩ (fun _ _ hr h => hr.add h) offered

/-- Every registered command is found under its id. -/
theorem Coherent.findById (hr : r.Coherent) {e : Node} (he : e ∈ r.entries) : r.findById e.command.id = some e :=
  Dict.get?_of_mem hr.ids_nodup (by rw [hr.byId]; exact List.mem_map_of_mem he)

end Registry

end ChatBot
