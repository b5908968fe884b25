import PacketSession.Proofs.Session.Lifecycle
import PacketSession.Sample.Packets

/-!
# No wait outlives its session, unless it is refused

The waits of a session are numbered from 1, and each of them either waits or has an outcome.
`Replies.Sound` says so; every course keeps it, a closed session has no new waits, and a session
that ends settles all that it has. A session that turns its connection away is closed as well but
settles nothing, so the waits begun before stay as they are until somebody settles them by
number. `Application.settled_iff` makes that exact: a closed session has settled all its waits if
and only if those that were open when it turned its connection away, if it ever did, were settled
since.
-/

namespace PacketSession

variable {S : Schema} {N X : Type}

/-! ### The table of waits -/

namespace Replies

variable {r : Replies S}

/-- Every wait either waits or has an outcome. -/
structure Sound (r : Replies S) : Prop where
  /-- No wait is listed twice. -/
  nodup : r.waiting.Nodup
  /-- The waits are those that were begun. -/
  begun : ∀ id, id ∈ r.waiting ∨ (r.outcome? id).isSome → 1 ≤ id ∧ id ≤ r.issued
  /-- Every wait that was begun is accounted for. -/
  covered : ∀ id, 1 ≤ id → id ≤ r.issued → id ∈ r.waiting ∨ (r.outcome? id).isSome
  /-- What waits has no outcome. -/
  unsettled : ∀ id ∈ r.waiting, r.outcome? id = none

/-- Every wait that was begun has its outcome. -/
def Settled (r : Replies S) : Prop :=
  r.count = 0 ∧ ∀ id, 1 ≤ id → id ≤ r.issued → (r.outcome? id).isSome

@[simp]
theorem id_create : r.create.1 = r.issued + 1 := rfl

@[simp]
theorem waiting_create : r.create.2.waiting = (r.issued + 1) :: r.waiting := rfl

@[simp]
theorem issued_create : r.create.2.issued = r.issued + 1 := rfl

@[simp]
theorem outcome?_create (id : Nat) : r.create.2.outcome? id = r.outcome? id := rfl

@[simp]
theorem issued_settle (id : Nat) (outcome : Reply S) :
    (r.settle id outcome).2.issued = r.issued := by
  unfold settle
  split <;> rfl

/-- Settling a wait takes it off the list of those that wait, and no other. -/
theorem mem_waiting_settle (hn : r.waiting.Nodup) (id other : Nat) (outcome : Reply S) :
    other ∈ (r.settle id outcome).2.waiting ↔ other ≠ id ∧ other ∈ r.waiting := by
  unfold settle
  split
  · exact hn.mem_erase_iff
  · rename_i hw
    simp only [List.contains_eq_mem, decide_eq_true_eq] at hw
    exact ⟨fun ho => ⟨fun h => hw (h ▸ ho), ho⟩, And.right⟩

private theorem waiting_settle_subset (id : Nat) (outcome : Reply S) :
    (r.settle id outcome).2.waiting ⊆ r.waiting := by
  unfold settle
  split
  · exact List.erase_subset
  · exact List.Subset.refl _

/-- Only a wait that still waits gets the outcome that it is settled with. -/
theorem outcome?_settle (id other : Nat) (outcome : Reply S) :
    (r.settle id outcome).2.outcome? other =
      if other = id ∧ id ∈ r.waiting then some outcome else r.outcome? other := by
  unfold settle
  by_cases hw : id ∈ r.waiting
  · by_cases ho : other = id
    · simp [outcome?, hw, ho]
    · have : (other == id) = false := by simpa using ho
      simp [outcome?, hw, ho, List.lookup_cons, this]
  · simp [hw]

@[simp]
theorem waiting_failAll (e : SessionError) : (r.failAll e).2.waiting = [] := rfl

@[simp]
theorem issued_failAll (e : SessionError) : (r.failAll e).2.issued = r.issued := rfl

/-- Among the same outcome for some waits, every one of them is found. -/
private theorem lookup_map_pair (outcome : Reply S) (id : Nat) (ids : List Nat) :
    (ids.map fun id => (id, outcome)).lookup id = if id ∈ ids then some outcome else none := by
  induction ids with
  | nil => rfl
  | cons other ids ih =>
    by_cases ho : id = other
    · simp [ho]
    · have hb : (id == other) = false := by simpa using ho
      simp [List.lookup_cons, hb, ih, ho]

/-- Failing all waits reaches those that still wait, and outcomes that are there stay. -/
theorem outcome?_failAll (e : SessionError) (id : Nat) :
    (r.failAll e).2.outcome? id = if id ∈ r.waiting then some (.error e) else r.outcome? id := by
  simp only [failAll, outcome?, List.lookup_append, lookup_map_pair]
  split <;> rfl

theorem sound_empty : (empty : Replies S).Sound where
  nodup := .nil
  begun id h := by simp [empty, outcome?] at h
  covered id h₁ h₂ := by simp [empty] at h₂; omega
  unsettled id h := by simp [empty] at h

/-- A new wait has the number behind all others, so it is neither listed nor settled yet. -/
theorem Sound.create (h : r.Sound) : r.create.2.Sound where
  nodup := by
    refine List.nodup_cons.mpr ⟨fun hm => ?_, h.nodup⟩
    have := (h.begun _ (.inl hm)).2
    omega
  begun id hid := by
    have hb := h.begun id
    simp only [waiting_create, List.mem_cons, outcome?_create, issued_create] at hid ⊢
    grind
  covered id h₁ h₂ := by
    have hc := h.covered id h₁
    simp only [waiting_create, List.mem_cons, outcome?_create, issued_create] at h₂ ⊢
    grind
  unsettled id hid := by
    rw [outcome?_create]
    obtain rfl | hid := List.mem_cons.mp hid
    · refine Option.not_isSome_iff_eq_none.mp fun hs => ?_
      have := (h.begun _ (.inr hs)).2
      omega
    · exact h.unsettled id hid

/-- A wait that is settled moves from those that wait to those with an outcome. -/
theorem Sound.settle (h : r.Sound) (id : Nat) (outcome : Reply S) :
    (r.settle id outcome).2.Sound where
  nodup := by
    unfold Replies.settle
    split
    · exact h.nodup.erase id
    · exact h.nodup
  begun other ho := by
    have hb := h.begun other
    rw [mem_waiting_settle h.nodup, outcome?_settle] at ho
    rw [issued_settle]
    grind
  covered other h₁ h₂ := by
    rw [issued_settle] at h₂
    rw [mem_waiting_settle h.nodup, outcome?_settle]
    have hc := h.covered other h₁ h₂
    grind
  unsettled other ho := by
    rw [mem_waiting_settle h.nodup] at ho
    rw [outcome?_settle, if_neg fun hi => ho.1 hi.1]
    exact h.unsettled other ho.2

/-- After failing all waits, every one that was begun has an outcome. -/
theorem Sound.failAll (h : r.Sound) (e : SessionError) : (r.failAll e).2.Sound where
  nodup := .nil
  begun id hid := by
    have hb := h.begun id
    rw [outcome?_failAll] at hid
    rw [issued_failAll]
    grind [waiting_failAll]
  covered id h₁ h₂ := by
    have hc := h.covered id h₁ h₂
    rw [outcome?_failAll]
    grind
  unsettled id hid := absurd hid List.not_mem_nil

end Replies

/-! ### Courses -/

namespace Course

variable {e e' : Endpoint S N X}

/-- All that a session does with its waits is to begin, settle and fail them, so its table stays
sound on every course. -/
theorem sound_replies (h : Course e e') (hs : e.session.replies.Sound) :
    e'.session.replies.Sound := by
  induction h with
  | trans _ _ ih₁ ih₂ => exact ih₂ (ih₁ hs)
  | awaits e =>
    simp only [Endpoint.update, Session.awaitReply]
    split
    · -- at a closed session the new wait is settled at once
      exact hs.create.settle _ _
    · exact hs.create
  | settles e id outcome => exact hs.settle id outcome
  | ends _ _ ih => exact ih (hs.failAll _)
  | breaks _ _ _ _ ih₁ ih₂ => exact ih₂ (ih₁ (hs.failAll _))
  | _ => exact hs

/-- Waits are never forgotten. -/
private theorem issued_le (h : Course e e') :
    e.session.replies.issued ≤ e'.session.replies.issued := by
  induction h with
  | trans _ _ ih₁ ih₂ => exact ih₁.trans ih₂
  | awaits e =>
    simp only [Endpoint.update, Session.awaitReply]
    split
    · rw [Replies.issued_settle]
      exact Nat.le_succ _
    · exact Nat.le_succ _
  | settles e id outcome => exact (Replies.issued_settle id outcome).ge
  | ends _ _ ih => exact ih
  | breaks _ _ _ _ ih₁ ih₂ => exact ih₁.trans ih₂
  | _ => exact Nat.le_refl _

/-- A closed session has no new waits. -/
theorem waiting_subset (h : Course e e') (hp : e.session.phase = .closed) :
    e'.session.replies.waiting ⊆ e.session.replies.waiting := by
  induction h with
  | trans h₁ _ ih₁ ih₂ => exact List.Subset.trans (ih₂ (h₁.closed hp)) (ih₁ hp)
  | awaits e =>
    simp [Endpoint.update, Session.awaitReply, hp, Replies.settle]
  | settles e id outcome => exact Replies.waiting_settle_subset id outcome
  | ends hne => exact absurd hp hne
  | breaks _ hne => exact absurd hp hne
  | _ => exact List.Subset.refl _

/-- A session that became closed has no waits left, unless it turned its connection away. -/
theorem waiting_eq_nil (h : Course e e') (hp : e.session.phase ≠ .closed)
    (hp' : e'.session.phase = .closed) :
    .refuses ∈ e'.turns ∨ e'.session.replies.waiting = [] := by
  induction h with
  | @trans e e₂ e₃ h₁ h₂ ih₁ ih₂ =>
    -- the session became closed in the first part or in the second one
    by_cases hp₂ : e₂.session.phase = .closed
    · refine (ih₁ hp hp₂).imp (fun hr => h₂.turns_grow.subset hr) fun hw => ?_
      exact List.subset_nil.mp (hw ▸ h₂.waiting_subset hp₂)
    · exact ih₂ hp₂ hp'
  | refuses e reason address _ => exact .inl (by simp)
  | opens e connection address _ => cases hp'
  | closes e reason _ => cases hp'
  | hangsUp e reason _ => cases hp'
  | fails e cause _ => cases hp'
  | ends _ h₁ => exact .inr (List.subset_nil.mp (h₁.waiting_subset rfl))
  | breaks cause _ h₁ h₂ =>
    have hw := List.subset_nil.mp (h₁.waiting_subset rfl)
    have := h₂.waiting_subset (h₁.closed rfl)
    exact .inr (List.subset_nil.mp (hw ▸ this))
  | _ => exact absurd hp' hp

end Course

/-! ### Refusals -/

/-- A session that turned its connection away took no other turn. -/
theorem Course.not_refuses {e e' : Endpoint S N X} (h : Course e e') (hr : .refuses ∉ e.turns)
    {t : Turn} (ht : t ≠ .refuses) (hp : e.turns ++ [t] <+: e'.turns) : .refuses ∉ e'.turns := by
  obtain ⟨l, hl, path⟩ := h.path
  have hturns : e'.turns = e.turns ++ turnsIn l := by
    rw [Endpoint.turns_eq, Endpoint.turns_eq, hl, turnsIn_append]
  intro hr'
  rw [hturns, List.mem_append] at hr'
  -- a path that refuses has no other turn, but `t` is the first turn of this one
  have hl := path.turnsIn_eq_of_refuses (hr'.resolve_left hr)
  rw [hturns, hl, List.prefix_append_right_inj, List.cons_prefix_cons] at hp
  exact ht hp.1

/-- A session that has left its first phase does not turn a connection away later. -/
theorem Course.refuses_of_ne {e e' : Endpoint S N X} (h : Course e e')
    (hp : e.session.phase ≠ .connecting) (hr : .refuses ∈ e'.turns) : .refuses ∈ e.turns := by
  obtain ⟨l, hl, path⟩ := h.path
  rw [Endpoint.turns_eq, hl, turnsIn_append, List.mem_append] at hr
  rw [Endpoint.turns_eq]
  exact hr.resolve_right (path.not_mem_turnsIn hp).2

/-- A session that refuses is closed. -/
private theorem Course.closed_of_refuses {e e' : Endpoint S N X} (h : Course e e')
    (hp : e.session.phase ≠ .closed) (hr : .refuses ∉ e.turns) (hr' : .refuses ∈ e'.turns) :
    e'.session.phase = .closed := by
  obtain ⟨l, hl, path⟩ := h.path
  rw [Endpoint.turns_eq, hl, turnsIn_append, List.mem_append, ← Endpoint.turns_eq] at hr'
  exact (path.eq_closed_iff hp).mpr (.inr (hr'.resolve_left hr))

namespace Host

variable {h : Host S N X} {e : Endpoint S N X}

/-- A session without a connection has nothing to write to. -/
theorem after_submit_of_connecting (hp : e.session.phase = .connecting) (delivery : Delivery)
    (frames : List Bytes) : (h.submit delivery frames).after e = e := by
  have hw : writable e.session = .error .notOpen := by simp [writable, hp]
  exact (submit_of_refused hw delivery frames).2

/-- Without a connection, sending changes nothing, whether or not the packet has a frame. -/
private theorem after_send_of_connecting (hp : e.session.phase = .connecting) (packet : Packet S)
    (delivery : Delivery) : (h.send packet delivery).after e = e := by
  rw [send]
  split
  · rfl
  · exact after_submit_of_connecting hp delivery _

private theorem after_sendBatch_of_connecting (hp : e.session.phase = .connecting)
    (packets : List (Packet S)) (delivery : Delivery) :
    (h.sendBatch packets delivery).after e = e := by
  rw [sendBatch]
  split
  · rfl
  · exact after_submit_of_connecting hp delivery _

/-- A session without a connection ignores frames. -/
theorem after_receive_of_connecting (hp : e.session.phase = .connecting) (frame : WireFrame) :
    (h.receive frame).after e = e :=
  after_receive_of_not_open (by rw [hp]; decide) frame

variable (hc : h.CallbacksOnCourse)

include hc

/-- A session that finishes takes the turn to end before any callback runs. -/
private theorem turns_finish (hp : e.session.phase ≠ .closed) (cause : Option ProtocolError) :
    e.turns ++ [.ends] <+: ((h.finish cause).after e).turns := by
  have hl := (onCourse_letGo hc e.session.connection e.session.reasonText
    (e.turn .ends fun s => released s cause)).turns_grow
  rw [Endpoint.turns_turn] at hl
  cases cause with
  | none =>
    rw [after_finish_none hp]
    generalize (h.letGo _ _).after _ = e₁ at hl ⊢
    have hcl := (hc.closed (e₁.record (.closed e₁.session.phase))).turns_grow
    rw [Endpoint.turns_record] at hcl
    exact hl.trans hcl
  | some cause =>
    rw [after_finish_some hp]
    dsimp only
    generalize (h.letGo _ _).after _ = e₁ at hl ⊢
    have hf := (hc.failed cause (e₁.record (.failed e₁.session.phase cause))).turns_grow
    rw [Endpoint.turns_record] at hf
    generalize (h.protocol.lifecycle.onException cause).after _ = e₂ at hf ⊢
    have hcl := (hc.closed (e₂.record (.closed e₂.session.phase))).turns_grow
    rw [Endpoint.turns_record] at hcl
    exact hl.trans (hf.trans hcl)

/-- A session that finished had no other turn that closes it. -/
private theorem not_refuses_finish (hp : e.session.phase ≠ .closed) (hr : .refuses ∉ e.turns)
    (cause : Option ProtocolError) : .refuses ∉ ((h.finish cause).after e).turns :=
  (onCourse_finish hc cause e).not_refuses hr (by decide) (turns_finish hc hp cause)

private theorem not_refuses_transportClosed (hp : e.session.phase ≠ .closed)
    (hr : .refuses ∉ e.turns) : .refuses ∉ (h.transportClosed.after e).turns := by
  rw [transportClosed, SessionM.after_bind, SessionM.answer_current, SessionM.after_current,
    if_neg hp, SessionM.after_bind, SessionM.after_update]
  exact not_refuses_finish hc (by exact hp) (by exact hr) none

/-- A session that failed did so by its turn to fail, and not by turning a connection away. -/
private theorem not_refuses_fail (hp : e.session.phase ≠ .closed) (hr : .refuses ∉ e.turns)
    (cause : ProtocolError) : .refuses ∉ ((h.fail cause).after e).turns := by
  have ht := (course_fail hc hp cause).turns_grow
  rw [Endpoint.turns_turn] at ht
  exact (onCourse_fail hc cause e).not_refuses hr (by simp) ht

/-- Nothing but a refusal makes a session without a connection refuse one. -/
theorem refuses_of_execute (hp : e.session.phase = .connecting) (hr : .refuses ∉ e.turns)
    (request : Request S) (hr' : .refuses ∈ ((request.execute h).after e).turns) :
    ∃ connection reason, request = .refuse connection reason := by
  have hne : e.session.phase ≠ .closed := by
    rw [hp]
    decide
  cases request with
  | refuse connection reason => exact ⟨connection, reason, rfl⟩
  | openWith connection =>
    exact absurd hr' ((onCourse_openWith hc connection e).not_refuses hr (by decide)
      (turns_openWith hc (openRefusal?_eq_none.mpr hp) connection))
  | close reason =>
    -- a session that has no connection is closed without further ado
    refine absurd hr' ?_
    rw [Request.execute, close, SessionM.after_bind, SessionM.answer_current,
      SessionM.after_current, hp]
    dsimp only
    rw [SessionM.after_bind, SessionM.after_update]
    exact not_refuses_finish hc (by exact hne) (by exact hr) none
  | fail cause => exact absurd hr' (not_refuses_fail hc hne hr cause)
  | receive frame => exact absurd (after_receive_of_connecting hp frame ▸ hr') hr
  | arrive arrival =>
    cases arrival with
    | frame frame => exact absurd (after_receive_of_connecting hp frame ▸ hr') hr
    | failed cause => exact absurd hr' (not_refuses_fail hc hne hr _)
    | ended => exact absurd hr' (not_refuses_transportClosed hc hne hr)
  | transportClosed => exact absurd hr' (not_refuses_transportClosed hc hne hr)
  | transportFailed cause => exact absurd hr' (not_refuses_fail hc hne hr _)
  | send packet delivery => exact absurd (after_send_of_connecting hp packet delivery ▸ hr') hr
  | sendBatch packets delivery =>
    exact absurd (after_sendBatch_of_connecting hp packets delivery ▸ hr') hr
  | sendFrame frame delivery =>
    exact absurd (after_submit_of_connecting hp delivery [frame] ▸ hr') hr
  | awaitReply => exact absurd hr' hr
  | settleReply id outcome => exact absurd hr' hr
  | setAttachment value => exact absurd hr' hr
  | inspect => exact absurd hr' hr

end Host

namespace Application

variable (a : Application S N X) (depth : Nat)

/-- Only a call to refuse a connection can make a session do so, and only before it had one. -/
private theorem refuses_of_make {e : Endpoint S N X} (hr : .refuses ∉ e.turns) (move : Move S X)
    (hr' : .refuses ∈ ((a.make depth move).after e).turns) :
    e.session.phase = .connecting ∧
      ∃ connection reason, move = .call (.refuse connection reason) := by
  have hcourse := a.onCourse_make depth move e
  have hp : e.session.phase = .connecting := by
    by_contra hp
    exact hr (hcourse.refuses_of_ne hp hr')
  refine ⟨hp, ?_⟩
  cases move with
  | elsewhere change => exact absurd hr' hr
  | call request =>
    cases depth with
    | zero => exact absurd (by cases request <;> exact hr') hr
    | succ depth =>
      obtain ⟨connection, reason, rfl⟩ := Host.refuses_of_execute
        (a.callbacksOnCourse_host (a.onCourse_perform depth)) hp hr request hr'
      exact ⟨connection, reason, rfl⟩

/-- In a run that refused a connection there is the call that did. -/
private theorem exists_refusal {e : Endpoint S N X} (hr : .refuses ∉ e.turns)
    (moves : List (Move S X)) (hr' : .refuses ∈ ((a.follow depth moves).after e).turns) :
    ∃ before connection reason later,
      moves = before ++ .call (.refuse connection reason) :: later ∧
        ((a.follow depth before).after e).session.phase = .connecting ∧
        .refuses ∉ ((a.follow depth before).after e).turns ∧
        .refuses ∈ ((a.make depth (.call (.refuse connection reason))).after
          ((a.follow depth before).after e)).turns := by
  induction moves generalizing e with
  | nil => exact absurd hr' hr
  | cons move moves ih =>
    by_cases hm : .refuses ∈ ((a.make depth move).after e).turns
    · obtain ⟨hp, connection, reason, rfl⟩ := a.refuses_of_make depth hr move hm
      exact ⟨[], connection, reason, moves, rfl, hp, hr, hm⟩
    · obtain ⟨before, connection, reason, later, rfl, h⟩ := ih hm hr'
      exact ⟨move :: before, connection, reason, later, rfl, h⟩

/-- Refusing a connection begins no wait. -/
private theorem waiting_refuse_subset {e : Endpoint S N X} (hp : e.session.phase = .connecting)
    (connection : ConnectionId) (reason : String) :
    ((a.make depth (.call (.refuse connection reason))).after e).session.replies.waiting ⊆
      e.session.replies.waiting := by
  cases depth with
  | zero => exact List.Subset.refl _
  | succ depth =>
    exact (Host.course_refuse (a.callbacksOnCourse_host (a.onCourse_perform depth))
      (Host.openRefusal?_eq_none.mpr hp) connection reason).waiting_subset rfl

/-- A closed session has settled all its waits if and only if those that were open when it turned
its connection away, if it ever did, have been settled since. In particular a session that was
closed in any other way has no wait left. -/
theorem settled_iff (settings : Settings) (x : X) (moves : List (Move S X))
    (hp : ((a.follow depth moves).after (.fresh settings x)).session.phase = .closed) :
    ((a.follow depth moves).after (.fresh settings x)).session.replies.Settled ↔
      ∀ before connection reason later,
        moves = before ++ .call (.refuse connection reason) :: later →
        ((a.follow depth before).after (.fresh settings x)).session.phase = .connecting →
        ∀ id ∈ ((a.follow depth before).after (.fresh settings x)).session.replies.waiting,
          (((a.follow depth moves).after (.fresh settings x)).session.replies.outcome? id).isSome
          := by
  have hcourse := a.onCourse_follow depth moves (.fresh settings x)
  have hsound := hcourse.sound_replies Replies.sound_empty
  constructor
  · rintro ⟨-, hall⟩ before connection reason later rfl - id hid
    have hbefore := a.onCourse_follow depth before (.fresh settings x)
    obtain ⟨h₁, h₂⟩ := (hbefore.sound_replies Replies.sound_empty).begun id (.inl hid)
    refine hall id h₁ (h₂.trans ?_)
    rw [after_follow_append]
    exact (a.onCourse_follow depth _ _).issued_le
  · intro hall
    have hw : ((a.follow depth moves).after (.fresh settings x)).session.replies.waiting = [] := by
      refine (hcourse.waiting_eq_nil Phase.noConfusion hp).elim (fun hr => ?_) id
      obtain ⟨before, connection, reason, later, rfl, hq, hn, hr'⟩ :=
        a.exists_refusal depth List.not_mem_nil moves hr
      refine List.eq_nil_iff_forall_not_mem.mpr fun id hid => ?_
      -- a wait that is left was open when the connection was refused
      have hclosed := (a.onCourse_make depth _ _).closed_of_refuses (by simp [hq]) hn hr'
      have hid' := hid
      rw [after_follow_append] at hid'
      replace hid' := a.waiting_refuse_subset depth hq connection reason
        ((a.onCourse_follow depth later _).waiting_subset hclosed hid')
      have ho := hall before connection reason later rfl hq id hid'
      rw [hsound.unsettled id hid] at ho
      cases ho
    refine ⟨by rw [Replies.count, hw]; rfl, fun id h₁ h₂ => ?_⟩
    refine (hsound.covered id h₁ h₂).resolve_left fun hid => ?_
    rw [hw] at hid
    cases hid

/-- An application whose connections are gone already and whose callbacks do nothing. -/
def unconnected : Application Sample.plain Unit Unit where
  protocol := .initial
  carrier :=
    { send := fun _ _ => pure (.error .connectionClosed)
      disconnect := fun _ _ => pure ()
      isConnected := fun _ => pure false
      address := fun _ _ => none }

/-- A session that is closed with a wait, by its own side and before it had a connection. -/
theorem settled_iff_close :
    ((unconnected.follow 1 [.call .awaitReply, .call (.close "bye")]).after
        (.fresh {} ())).session.phase = .closed ∧
      (((unconnected.follow 1 [.call .awaitReply, .call (.close "bye")]).after
          (.fresh {} ())).session.replies.Settled ↔
        ∀ before connection reason later,
          [.call .awaitReply, .call (.close "bye")] =
            before ++ .call (.refuse connection reason) :: later →
          ((unconnected.follow 1 before).after (.fresh {} ())).session.phase = .connecting →
          ∀ id ∈ ((unconnected.follow 1 before).after (.fresh {} ())).session.replies.waiting,
            (((unconnected.follow 1 [.call .awaitReply, .call (.close "bye")]).after
              (.fresh {} ())).session.replies.outcome? id).isSome) :=
  ⟨rfl, unconnected.settled_iff 1 {} () _ rfl⟩

/-- A session that turns a connection away is closed, and the wait begun before goes on. -/
theorem not_settled_refuse :
    ((unconnected.follow 1 [.call .awaitReply, .call (.refuse 0 "server full")]).after
        (.fresh {} ())).session.phase = .closed ∧
      ¬ ((unconnected.follow 1 [.call .awaitReply, .call (.refuse 0 "server full")]).after
        (.fresh {} ())).session.replies.Settled :=
  ⟨rfl, fun h => absurd h.1 (by decide)⟩

end Application

end PacketSession
