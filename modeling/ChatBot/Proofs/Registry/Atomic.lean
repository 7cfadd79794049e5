/-
  ChatBot.Proofs.Registry.Atomic — a registration is made as a whole or not at all.

  A node brings many commands, and any of them can stop it: a blank seed, a taken id, a
  taken name. All of them are checked before the first is written. So a refused call can be
  left out of a course of registrations: the others answer what they answered and the same
  registry is left. The index then holds the commands of the calls that were answered well,
  each under its own id, and whatever a text calls is one of them
  (`course_atomic_indexed`).
-/
import ChatBot.Proofs.Registry.Names

namespace ChatBot

open Text

namespace Registry

variable {r : Registry} {node d e : Node} {text : String}

/-! ## Courses of registrations -/

/-- What each of these registrations answers, and the registry that they leave. -/
def course : List Node → Registry → List (Except RegistryError Unit) × Registry
  | [], r => ([], r)
  | node :: later, r =>
    let (answer, left) := r.enrolled node
    let (answers, last) := course later left
    (answer :: answers, last)

/-- The nodes whose registration was answered well. -/
def taken (offered : List Node) (answers : List (Except RegistryError Unit)) : List Node :=
  ((offered.zip answers).filter (·.2.isOk)).map Prod.fst

theorem enrolled_left (r : Registry) (node : Node) : (r.enrolled node).2 = r.offer node := by
  rw [offer, register]
  rcases enrolled_eq r node with ⟨-, heq⟩ | ⟨-, e, heq⟩ <;> rw [heq] <;> rfl

theorem course_cons (node : Node) (later : List Node) (r : Registry) : course (node :: later) r =
    ((r.enrolled node).1 :: (course later (r.enrolled node).2).1, (course later (r.enrolled node).2).2) :=
  rfl

theorem course_left (offered : List Node) (r : Registry) : (course offered r).2 = offered.foldl offer r := by
  induction offered generalizing r with
  | nil => rfl
  | cons node later ih => rw [course_cons, List.foldl_cons, ← enrolled_left, ← ih]

/-- A refused call can be left out. -/
theorem course_eraseIdx {offered : List Node} {k : Nat} {e : RegistryError}
    (h : (course offered r).1[k]? = some (.error e)) :
    course (offered.eraseIdx k) r = ((course offered r).1.eraseIdx k, (course offered r).2) := by
  induction offered generalizing r k with
  | nil => cases h
  | cons node later ih =>
    rw [course_cons] at h ⊢
    cases k with
    | zero =>
      have hleft : (r.enrolled node).2 = r := by
        rcases enrolled_eq r node with ⟨-, heq⟩ | ⟨-, e', heq⟩
        · rw [heq] at h
          cases h
        · rw [heq]
      rw [hleft]
      rfl
    | succ k =>
      rw [List.eraseIdx_cons_succ, List.eraseIdx_cons_succ, course_cons, ih h]

theorem course_nodes (offered : List Node) (r : Registry) :
    (course offered r).2.nodes = r.nodes ++ taken offered (course offered r).1 := by
  induction offered generalizing r with
  | nil => exact (List.append_nil _).symm
  | cons node later ih =>
    rw [course_cons, ih]
    rcases enrolled_eq r node with ⟨-, heq⟩ | ⟨-, e, heq⟩
    · rw [heq]
      exact List.append_assoc _ _ _
    · rw [heq]
      rfl

/-! ## The index -/

theorem mem_entries_self (node : Node) : node ∈ node.entries := by
  cases node <;> exact List.mem_cons_self

theorem mem_entries_of_mem_direct (h : d ∈ node.direct) : d ∈ node.entries := by
  rcases List.mem_append.mp h with h | h
  · split at h
    · cases h
    · obtain rfl := List.mem_singleton.mp h
      exact mem_entries_self d
  · split at h
    · obtain ⟨c, hc, rfl⟩ := List.mem_map.mp h
      exact List.mem_cons_of_mem _ (List.mem_map_of_mem (List.mem_filter.mp hc).1)
    · cases h

/-- Below an entry stand entries only. -/
theorem mem_entries_of_isWithin (hd : d ∈ node.entries) (h : IsWithin d e) : e ∈ node.entries := by
  rcases h with rfl | ⟨p, rfl, c, hc, rfl⟩
  · exact hd
  cases node with
  | leaf c' => cases List.mem_singleton.mp hd
  | child c' p' => cases List.mem_singleton.mp hd
  | parent p' =>
    rcases List.mem_cons.mp hd with h | h
    · cases h
      exact List.mem_cons_of_mem _ (List.mem_map_of_mem hc)
    · obtain ⟨c', -, h⟩ := List.mem_map.mp h
      cases h

/-- What a text calls is registered. -/
theorem mem_entries_of_resolve {found : Resolution} (h : r.resolve text = .ok found) : found.node ∈ r.entries := by
  obtain ⟨first, d, variation, -, hmatch, rfl⟩ := resolve_eq_ok.mp h
  obtain ⟨node, hnode, hd⟩ := List.mem_flatMap.mp (mem_direct_of_matchFirst hmatch)
  refine List.mem_flatMap.mpr ⟨node, hnode, ?_⟩
  exact mem_entries_of_isWithin (mem_entries_of_mem_direct hd) (isWithin_descend _ d variation)

theorem seeds_ofOffers (offered : List Node) :
    ∀ e ∈ (ofOffers offered).entries, isBlankText e.command.info.seed = false := by
  refine ofOffers_induction (P := fun r => ∀ e ∈ r.entries, isBlankText e.command.info.seed = false)
    (fun e he => by cases he) (fun r node hr h e he => ?_) offered
  rw [entries_add] at he
  exact (List.mem_append.mp he).elim (hr e) (h.seeds e)

/-- The registry keeps the commands of these nodes, each under its own id, and calls no
    others. -/
structure Indexes (r : Registry) (nodes : List Node) : Prop where
  size : r.size = (nodes.flatMap Node.entries).length
  found : ∀ node ∈ nodes, ∀ e ∈ node.entries, r.findById e.command.id = some e
  ids_nodup : ((nodes.flatMap Node.entries).map (·.command.id)).Nodup
  seeds : ∀ node ∈ nodes, ∀ e ∈ node.entries, isBlankText e.command.info.seed = false
  called : ∀ text found, r.resolve text = .ok found → r.findById found.node.command.id = some found.node

theorem Coherent.indexes (hr : r.Coherent) (hseeds : ∀ e ∈ r.entries, isBlankText e.command.info.seed = false) :
    r.Indexes r.nodes where
  size := by
    show r.byId.entries.length = r.entries.length
    rw [hr.byId, List.length_map]
  found node hnode e he := hr.findById (List.mem_flatMap.mpr ⟨node, hnode, he⟩)
  ids_nodup := hr.nodup_ids
  seeds node hnode e he := hseeds e (List.mem_flatMap.mpr ⟨node, hnode, he⟩)
  called text found h := hr.findById (mem_entries_of_resolve h)

/-- A call that is refused leaves the registry, and so all that is answered later, as if it
    had not been made. After the last call the registry has the commands of the calls that
    were answered well, each under its own id. -/
theorem course_atomic_indexed (offered : List Node) :
    (∀ k e, (course offered empty).1[k]? = some (.error e) →
      course (offered.eraseIdx k) empty = ((course offered empty).1.eraseIdx k, (course offered empty).2)) ∧
    (course offered empty).2.Indexes (taken offered (course offered empty).1) := by
  refine ⟨fun k e h => course_eraseIdx h, ?_⟩
  have hleft : (course offered empty).2 = ofOffers offered := course_left offered empty
  have hnodes : (ofOffers offered).nodes = taken offered (course offered empty).1 :=
    hleft ▸ course_nodes offered empty
  rw [hleft, ← hnodes]
  exact (coherent_ofOffers offered).indexes (seeds_ofOffers offered)

/-! ### A parent that is stopped by its last child -/

namespace Stopped

def rate : Command := .simple (.make "rate" "rate") (.ofRun fun _ => .done)

def unseeded : Command := .simple (.make " " "clear") (.ofRun fun _ => .done)

def ratings : ParentCommand :=
  ⟨.simple (.make "ratings" "ratings") (.ofRun fun _ => .done), [rate, unseeded], none, [], none⟩

/-- The last is the child that was not registered with its parent. -/
def offered : List Node := [.leaf Ratings.nowPlaying, .parent ratings, .leaf rate]

theorem answered : (course offered empty).1 = [.ok (), .error (.emptySeed "clear"), .ok ()] := by
  set_option maxRecDepth 2000 in
  with_unfolding_all decide

end Stopped

open Stopped in
/-- Nothing is left of the parent, and its first child can be registered. -/
theorem course_atomic_indexed_stopped :
    (course offered empty).1 = [.ok (), .error (.emptySeed "clear"), .ok ()] ∧
      course [.leaf Ratings.nowPlaying, .leaf rate] empty = ([.ok (), .ok ()], (course offered empty).2) ∧
      (course offered empty).2.size = 2 ∧ (course offered empty).2.findById rate.id = some (.leaf rate) := by
  obtain ⟨hatomic, hindexes⟩ := course_atomic_indexed offered
  have hstopped := hatomic 1 (.emptySeed "clear") (by rw [answered]; rfl)
  have htaken : taken offered [.ok (), .error (.emptySeed "clear"), .ok ()] =
    [.leaf Ratings.nowPlaying, .leaf rate] := rfl
  rw [answered] at hstopped hindexes
  rw [htaken] at hindexes
  have hrate := hindexes.found (.leaf rate) (List.mem_cons_of_mem _ List.mem_cons_self) (.leaf rate) List.mem_cons_self
  exact ⟨answered, hstopped, hindexes.size, hrate⟩

end Registry

end ChatBot
