import HostGpu.Proofs.Session.Reachable

/-!
# What commands leave alone

Few commands change a given part of a session.  All others leave the part as it is
(`Session.execute_leaves`), so that where something in it comes from is a matter of these few.
-/

namespace HostGpu

open Outcome

namespace Session

/-- Parts of a session that few commands change. -/
inductive Part
  | samplers
  | setLayouts
  | pipelineLayouts
  | shaders
  | routines
  | sets
  /-- The number of the next thing. -/
  | next

/-- A command may change a part of a session. -/
def Command.changes : Command → Part → Bool
  | sampler .., .samplers => true
  | setLayout .., .setLayouts => true
  | pipelineLayout .., .pipelineLayouts => true
  | shader .., .shaders => true
  | routine .., .routines | bind .., .routines | masks .., .routines | run .., .routines => true
  | set .., .sets | allocate .., .sets | update .., .sets => true
  | drop _, .samplers | drop _, .setLayouts | drop _, .pipelineLayouts | drop _, .shaders
  | drop _, .routines => true
  | device .., .next | image .., .next | view .., .next | sampler .., .next | buffer .., .next
  | bufferOfBytes .., .next | bufferView .., .next | setLayout .., .next | pipelineLayout .., .next
  | set .., .next | pool .., .next | allocate .., .next => true
  | _, _ => false

/-- A part of a session is the same in another one. -/
def Same (s s' : Session) : Part → Prop
  | .samplers => s'.samplers = s.samplers
  | .setLayouts => s'.setLayouts = s.setLayouts
  | .pipelineLayouts => s'.pipelineLayouts = s.pipelineLayouts
  | .shaders => s'.shaders = s.shaders
  | .routines => s'.routines = s.routines
  | .sets => s'.store.sets = s.store.sets
  | .next => s'.store.next = s.store.next

variable {s : Session} {p : Part}

theorem Same.attempt {a : Attempt} (ha : Yields (fun r => s.Same r.1 p) a) :
    s.Same (s.attempt a).session p :=
  session_attempt (P := fun s' => s.Same s' p) (by cases p <;> rfl) ha

/-- **Commands leave alone** what they do not change. -/
theorem execute_leaves (s : Session) {c : Command} (h : c.changes p = false) :
    s.Same (s.execute c).session p := by
  cases c with
  | constants | queryImage | queryView | read | registry | queryLayout | dump | queryPipeline
    | cache => cases p <;> rfl
  | device | drop => cases p <;> first | rfl | cases h
  | allocate =>
    refine session_callPool (P := fun s' => s.Same s' p) (by cases p <;> rfl)
      (fun _ => by cases p <;> rfl) fun _ _ _ _ _ _ => ?_
    cases p <;> first | rfl | cases h
  | free | reset =>
    exact session_callPool (P := fun s' => s.Same s' p) (by cases p <;> rfl)
      (fun _ => by cases p <;> rfl) fun _ _ _ _ _ _ => by cases p <;> rfl
  | masks =>
    refine .attempt (.next fun _ => .pure ?_)
    cases p <;> first | rfl | cases h
  | write | set =>
    refine .attempt (.next fun _ => .next fun _ => .pure ?_)
    cases p <;> first | rfl | cases h
  | shader | routine =>
    refine .attempt (.next fun _ => .next fun _ => .next fun _ => .pure ?_)
    cases p <;> first | rfl | cases h
  | bind =>
    refine .attempt (.next fun _ => .next fun _ => .next fun _ => .next fun _ => .pure ?_)
    cases p <;> first | rfl | cases h
  -- what is made comes with a store that has the same sets
  | image | view | sampler | buffer | bufferOfBytes | bufferView | pool =>
    refine .attempt (.next fun _ => .bind (P := (·.store.sets = s.store.sets))
      (.mapError (.next fun _ => ?_) _) fun _ hsets => .pure ?_)
    · exact .pure rfl
    · cases p <;> first | exact hsets | rfl | cases h
  | setLayout =>
    refine .attempt (.next fun _ => .next fun _ => .bind (P := (·.store.sets = s.store.sets))
      (.mapError (.next fun _ => ?_) _) fun _ hsets => .next fun _ => .pure ?_)
    · exact .pure rfl
    · cases p <;> first | exact hsets | rfl | cases h
  | pipelineLayout =>
    refine .attempt (.next fun _ => .next fun _ => .bind (P := (·.store.sets = s.store.sets))
      (.mapError (.next fun _ => ?_) _) fun _ hsets => .pure ?_)
    · exact .pure rfl
    · cases p <;> first | exact hsets | rfl | cases h
  | update set writes copies =>
    obtain ⟨store, hnext, hstore⟩ := s.exists_store_update set writes copies
    rw [execute, hstore]
    cases p <;> first | exact hnext | rfl | cases h
  | resolve =>
    rw [execute]
    split
    case h_1 hresolve =>
      simp only [Session.resolve, Store.resolve, orFault, bind_eq_ok, mapError_eq_ok, pure_eq_ok,
        Prod.mk.injEq] at hresolve
      obtain ⟨_, -, ⟨_, _⟩, ⟨_, -, -, rfl⟩, rfl, -⟩ := hresolve
      cases p <;> rfl
    case h_2 => cases p <;> rfl
  | run =>
    rw [execute, runRoutine]
    split <;> cases p <;> first | rfl | cases h

end Session

end HostGpu
