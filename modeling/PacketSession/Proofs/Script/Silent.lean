import PacketSession.Proofs.Session.Course

/-!
# Scripts that leave the session alone

A *silent* script makes no call on the session but to look at its state. It may read and change
everything else and write notes, and that is all that can be seen of it at an endpoint.
-/

namespace PacketSession

variable {S : Schema} {N X : Type} {α : Type}

/-- A script makes no call on the session but to look at its state. -/
inductive Script.Silent : Script S N X α → Prop
  | done (result : α) : Silent (.done result)
  | inspect {next : Session S → Script S N X α} : (∀ s, (next s).Silent) →
      Silent (.ask .inspect next)
  | look {next : X → Script S N X α} : (∀ x, (next x).Silent) → Silent (.look next)
  | put {next : Script S N X α} (x : X) : next.Silent → Silent (.put x next)
  | write {next : Script S N X α} (note : N) : next.Silent → Silent (.write note next)

/-- Between two endpoints nothing happened to the session, and nothing was seen but notes. -/
structure Endpoint.Apart (e e' : Endpoint S N X) : Prop where
  session : e'.session = e.session
  journal : ∃ notes : List N, e'.journal = notes.map (fun note => .seen (.note note)) ++ e.journal

namespace Endpoint.Apart

theorem refl (e : Endpoint S N X) : Apart e e := ⟨rfl, [], rfl⟩

theorem trans {e₁ e₂ e₃ : Endpoint S N X} (h₁ : Apart e₁ e₂) (h₂ : Apart e₂ e₃) : Apart e₁ e₃ := by
  obtain ⟨notes₁, hj₁⟩ := h₁.journal
  obtain ⟨notes₂, hj₂⟩ := h₂.journal
  refine ⟨h₂.session.trans h₁.session, notes₂ ++ notes₁, ?_⟩
  rw [hj₂, hj₁, List.map_append, List.append_assoc]

instance : IsPreorder (Endpoint S N X) Apart where
  refl := .refl
  trans _ _ _ := .trans

end Endpoint.Apart

/-- A silent script leaves the session alone. -/
theorem Script.Silent.apart {script : Script S N X α} (h : script.Silent)
    {answer : (request : Request S) → SessionM S N X request.Answer}
    (ha : ∀ e, (answer .inspect).after e = e) (e : Endpoint S N X) :
    e.Apart ((script.run answer).after e) := by
  induction h generalizing e with
  | done result => exact .refl e
  | inspect _ ih =>
    rw [run, SessionM.after_bind, ha]
    exact ih _ e
  | look _ ih => exact ih _ e
  | put x _ ih =>
    have hp : e.Apart { e with outside := x } := ⟨rfl, [], rfl⟩
    exact hp.trans (ih _)
  | write note _ ih =>
    have hn : e.Apart (e.record (.note note)) := ⟨rfl, [note], rfl⟩
    exact hn.trans (ih _)

/-- What a silent script does is a matter of what it is answered when it looks at the session. -/
theorem Script.Silent.run_eq {script : Script S N X α} (h : script.Silent)
    {answer answer' : (request : Request S) → SessionM S N X request.Answer}
    (hi : answer .inspect = answer' .inspect) : script.run answer = script.run answer' := by
  induction h with
  | done result => rfl
  | inspect _ ih =>
    rw [run, run, hi]
    exact bind_congr fun s => ih s
  | look _ ih =>
    rw [run, run]
    exact bind_congr fun e => ih e.outside
  | put x _ ih | write note _ ih => rw [run, run, ih]

/-- To whatever depth calls nest, a call to look at the state answers it. -/
theorem Application.perform_inspect (a : Application S N X) (depth : Nat) :
    a.perform depth .inspect = SessionM.current := by
  cases depth <;> rfl

/-- Looking at the state of a session changes nothing. -/
theorem Application.after_inspect (a : Application S N X) (depth : Nat) (e : Endpoint S N X) :
    (a.perform depth .inspect).after e = e := by
  rw [perform_inspect, SessionM.after_current]

/-! ### What else can be seen -/

namespace Endpoint

/-- The frames that connections took, in order. -/
def taken (e : Endpoint S N X) : List WireFrame :=
  e.journal.reverse.filterMap fun
    | .seen (.sent _ frame none) => some frame
    | _ => none

/-- The packets that handlers were run on, in order, each with its identifier and delivery. -/
def handled (e : Endpoint S N X) : List (PacketId × Packet S × Delivery) :=
  e.journal.reverse.filterMap fun
    | .seen (.handling id packet delivery) => some (id, packet, delivery)
    | _ => none

theorem taken_record_refused (e : Endpoint S N X) (connection : ConnectionId) (frame : WireFrame)
    (cause : TransportError) :
    (e.record (.sent connection frame (some cause))).taken = e.taken := by
  simp [taken, record]

variable {e e' : Endpoint S N X}

theorem Apart.taken (h : e.Apart e') : e'.taken = e.taken := by
  obtain ⟨notes, hj⟩ := h.journal
  simp [Endpoint.taken, hj]

theorem Apart.handled (h : e.Apart e') : e'.handled = e.handled := by
  obtain ⟨notes, hj⟩ := h.journal
  simp [Endpoint.handled, hj]

end Endpoint

/-- A frame that a connection took stays taken. -/
theorem Course.taken_grow {e e' : Endpoint S N X} (h : Course e e') : e.taken <+: e'.taken :=
  List.IsPrefix.filterMap _ (List.reverse_prefix.mpr h.journal_suffix)

end PacketSession
