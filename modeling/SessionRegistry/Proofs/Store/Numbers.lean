import SessionRegistry.Proofs.Operation.Registration
import SessionRegistry.Proofs.Session.Succession
import SessionRegistry.Proofs.Store.Every
import SessionRegistry.Proofs.Store.Run

/-!
# Numbers of sessions and branches

A number that was given to a session or a branch is never given again, however often the store is
opened again and whatever has been removed in between. While the store is open its counter sees to
that. A restart counts on from the highest number that it recovers: that of the snapshot, which is
the counter's at the checkpoint, or that of an image in the log, which was written when a number was
given.

## Main definitions

* `Numbered`: the invariant of the numbers of a store.
* `Moment.drawn`, `Moment.issued`, `Moment.begun`: the numbers and names that a moment hands out.

## Main results

* `Numbered.draws`, `Numbered.moment`: what keeps the invariant.
* `Numbered.issued`: a number that is issued is above all that were issued before.
-/

namespace SessionRegistry

/-! ## The numbers of an image -/

/-- The number below another one, unless that is zero. -/
theorem toNat_pred {n m : UInt64} (h : m < n) : (n - 1).toNat = n.toNat - 1 := by
  have one : (1 : UInt64) ≤ n := by
    rw [UInt64.le_iff_toNat_le, UInt64.toNat_one]
    rw [UInt64.lt_iff_toNat_lt] at h
    omega
  rw [UInt64.toNat_sub_of_le n 1 one, UInt64.toNat_one]

/-- A branch with a number above all numbers of its session keeps them ascending. -/
theorem Session.Ascending.addBranch {session : Session} {branch : Branch}
    (h : session.Ascending) (above : session.maxId < branch.id) :
    (session.addBranch branch).Ascending ∧ (session.addBranch branch).maxId ≤ branch.id := by
  have below : ∀ n ∈ session.numbers, n < branch.id := fun n hn =>
    UInt64.lt_of_le_of_lt (maxId_le_iff_numbers.1 (UInt64.le_refl _) n hn) above
  unfold Session.addBranch
  split
  · exact ⟨h, UInt64.le_of_lt above⟩
  · have numbers : Session.numbers { session with branches := session.branches ++ [branch] }
        = session.numbers ++ [branch.id] := by
      simp [Session.numbers]
    constructor
    · rw [Session.Ascending, numbers, List.pairwise_append]
      refine ⟨h, List.pairwise_singleton _ _, fun n hn m hm => ?_⟩
      rw [List.mem_singleton.1 hm]
      exact below n hn
    · rw [maxId_le_iff_numbers, numbers]
      intro n hn
      rcases List.mem_append.1 hn with hn | hn
      · exact UInt64.le_of_lt (below n hn)
      · rw [List.mem_singleton.1 hn]
        exact UInt64.le_refl _

/-- The numbers in an image that an operation logs ascend and have been handed out, if those in the
stored sessions have. -/
theorem Operation.Allows.numbers {op : Operation} {origin s : Store} {image : Session}
    (allowed : op.Allows origin s (.upsert image)) (given : ∀ session, op ≠ .put session)
    (positive : 0 < s.nextId)
    (before : origin.sessions.Every fun session => session.maxId < origin.nextId)
    (stored : s.sessions.Every fun session => session.Ascending ∧ session.maxId < s.nextId) :
    image.Ascending ∧ image.maxId < s.nextId := by
  obtain ⟨logged, drawn, same⟩ := allowed
  generalize hlogged : LogOperation.upsert image = l at logged
  cases logged with
  | put _ => exact absurd rfl (given _)
  | @deleteBranch xid id session branch found _ _ =>
    cases hlogged
    obtain ⟨ascending, below⟩ := stored xid session found
    have succeeds := (session.edits_removeBranch id).toSucceeds
    exact ⟨succeeds.ascending ascending, UInt64.lt_of_le_of_lt succeeds.maxId_le below⟩
  | @begin _ _ _ _ _ id _ fresh begun _ =>
    cases hlogged
    rw [begun]
    rw [fresh] at positive ⊢
    exact ⟨List.pairwise_singleton _ _, lt_succ_of_ne_zero (UInt64.pos_iff_ne_zero.1 positive)⟩
  | @register xid registration session id found _ fresh _ =>
    cases hlogged
    -- The number is the one that was next when the registration began, so it is above all others.
    obtain rfl : id = origin.nextId := (UInt64.add_left_inj 1).1 (fresh.symm.trans drawn)
    rw [same (by simp [draws])] at found
    obtain ⟨ascending, -⟩ := stored xid session (same (by simp [draws]) ▸ found)
    have above : session.maxId < (session.registeredBranch registration origin.nextId s.clock).id :=
      before xid session found
    obtain ⟨added, most⟩ := ascending.addBranch above
    rw [fresh] at positive ⊢
    exact ⟨added, UInt64.lt_of_le_of_lt most (lt_succ_of_ne_zero (UInt64.pos_iff_ne_zero.1 positive))⟩
  | @revise _ xid revision session after revises found revised _ =>
    cases hlogged
    obtain ⟨ascending, below⟩ := stored xid session found
    have succeeds := revises.succeeds revised
    exact ⟨succeeds.ascending ascending, UInt64.lt_of_le_of_lt succeeds.maxId_le below⟩
  | delete _ => cases hlogged
  | deleteEnded _ _ => cases hlogged
  | forceDelete _ => cases hlogged
  | sweep _ _ => cases hlogged

namespace Store

variable {exposed : Prop} {low : UInt64} {s next : Store} {new : List Attempt}

/-! ## The invariant -/

/-- The numbers in every session ascend and have been handed out. The number `low` has been handed
out as well, and a restart that may come counts on from there or from a higher number that has been
handed out. -/
structure Numbered (exposed : Prop) (low : UInt64) (s : Store) : Prop where
  sessions : s.sessions.Every fun session => session.Ascending ∧ session.maxId < s.nextId
  handed : low < s.nextId
  top : exposed ∨ s.closed = true → ∃ recovered, recover s.files = .ok recovered
    ∧ low ≤ recovered.maxId ∧ recovered.maxId < s.nextId

/-- The image of a store keeps the number that was handed out last. -/
theorem top_image (sessions : s.sessions.Every fun session => session.maxId < s.nextId)
    (handed : low < s.nextId) :
    low ≤ (Recovered.ofSnapshot s.image).maxId
      ∧ (Recovered.ofSnapshot s.image).maxId < s.nextId := by
  have pred := toNat_pred handed
  rw [UInt64.lt_iff_toNat_lt] at handed
  -- The image keeps the number before the next one, because that is not zero.
  have some : s.nextId ≠ 0 := by
    intro zero
    rw [zero, UInt64.toNat_zero] at handed
    omega
  have last : s.image.maxId = s.nextId - 1 := if_neg some
  constructor
  · have above := (Recovered.maxId_ofSnapshot_le_iff.1 (UInt64.le_refl
      (Recovered.ofSnapshot s.image).maxId)).1
    refine UInt64.le_trans ?_ above
    rw [last, UInt64.le_iff_toNat_le, pred]
    omega
  · have most : (Recovered.ofSnapshot s.image).maxId ≤ s.nextId - 1 := by
      refine Recovered.maxId_ofSnapshot_le_iff.2 ⟨last ▸ UInt64.le_refl _, fun session stored => ?_⟩
      have below : session.maxId < s.nextId :=
        sessions session.xid session ((s.sessions.mem_toList_iff session).1 stored)
      rw [UInt64.lt_iff_toNat_lt] at below
      rw [UInt64.le_iff_toNat_le, pred]
      omega
    rw [UInt64.le_iff_toNat_le, pred] at most
    rw [UInt64.lt_iff_toNat_lt]
    omega

/-- A checkpoint writes the number that was handed out last, whatever the files told before. -/
theorem numbered_checkpoint
    (sessions : s.sessions.Every fun session => session.Ascending ∧ session.maxId < s.nextId)
    (handed : low < s.nextId) (running : s.log.running = true) :
    Numbered exposed low (checkpoint.run.run s).2 := by
  have found := recover_checkpoint running
  have top := top_image (fun xid session stored => (sessions xid session stored).2) handed
  obtain ⟨_, _, _, frame, -⟩ := s.checkpoint_frame
  rw [frame] at found ⊢
  exact ⟨sessions, handed, fun _ => ⟨_, found, top⟩⟩

namespace Numbered

/-- Only the sessions and the files matter, and the next number may rise. -/
theorem raise (h : Numbered exposed low s) (later : s.nextId ≤ next.nextId)
    (hsessions : next.sessions = s.sessions) (hfiles : next.files = s.files)
    (hclosed : next.closed = s.closed) : Numbered exposed low next where
  sessions := by
    rw [hsessions]
    intro xid session stored
    obtain ⟨ascending, below⟩ := h.sessions xid session stored
    exact ⟨ascending, UInt64.lt_of_lt_of_le below later⟩
  handed := UInt64.lt_of_lt_of_le h.handed later
  top read := by
    rw [hclosed] at read
    obtain ⟨recovered, found, above, below⟩ := h.top read
    exact ⟨recovered, hfiles ▸ found, above, UInt64.lt_of_lt_of_le below later⟩

theorem checkpoint (h : Numbered exposed low s) :
    Numbered exposed low (Store.checkpoint.run.run s).2 := by
  cases running : s.log.running with
  | true => exact numbered_checkpoint h.sessions h.handed running
  | false =>
    rw [run_checkpoint_of_stopped s running]
    exact h

theorem countBytes (h : Numbered exposed low s) (bytes : Nat) :
    Numbered exposed low ((Store.countBytes bytes).run.run s).2 := by
  have counted : Numbered exposed low
      { s with bytesSinceCheckpoint := s.bytesSinceCheckpoint + UInt64.ofNat bytes } :=
    h.raise (UInt64.le_refl _) rfl rfl rfl
  rw [run_countBytes]
  dsimp only
  split
  · exact counted.checkpoint
  · exact counted

/-- A shutdown writes the number that was handed out last. -/
theorem shutdown (h : Numbered exposed low s) (durable : Durable exposed s) :
    Numbered exposed low (Store.shutdown.run.run s).2 := by
  cases closed : s.closed with
  | true =>
    rw [run_shutdown_of_closed s closed]
    exact h
  | false =>
    have running := durable.running_of_isOpen closed
    have written : Numbered exposed low (Store.checkpoint.run.run { s with closed := true }).2 :=
      numbered_checkpoint h.sessions h.handed running
    rw [run_shutdown_of_open s closed]
    refine written.raise (UInt64.le_refl _) rfl ?_ rfl
    rw [files, LogWriter.file_shutdown]
    rfl

/-! ## Moves -/

/-- A change that was made keeps the invariant if a new image has ascending numbers that have been
handed out. -/
theorem published {op : LogOperation} {log : LogWriter} (h : Numbered exposed low s)
    (durable : Durable exposed s) (isOpen : s.closed = false)
    (file : log.file = s.log.file ++ Frame.ofRecord (s.nextRecord op))
    (image : ∀ session, op = .upsert session → session.Ascending ∧ session.maxId < s.nextId)
    (good : exposed → Recoverable s.lsn.toNat [{ record := s.nextRecord op, failure := none }]) :
    Numbered exposed low (s.published op log) := by
  refine ⟨h.sessions.publish image, h.handed, fun read => ?_⟩
  have mayDie : exposed := read.resolve_right (by simp [Store.published, isOpen])
  obtain ⟨recovered, found, above, below⟩ := h.top (.inl mayDie)
  have fits := (good mayDie).fits ⟨s.nextRecord op, none⟩ (List.mem_singleton_self _)
  refine ⟨_, (durable.intact (.inl mayDie)).recover_published found fits (good mayDie).room file, ?_⟩
  rw [Recovered.maxId_replay]
  -- Replaying the new record adds the numbers of its image, if it has one.
  split
  · next session hop =>
    constructor
    · exact UInt64.le_trans above (max_le_iff.1 (UInt64.le_refl _)).1
    · exact max_lt_iff.2 ⟨below, (image session hop).2⟩
  · exact ⟨above, below⟩

/-- A move that hands out no number keeps the invariant. -/
theorem move {op : Operation} {origin : Store} (h : Numbered exposed low s)
    (durable : Durable exposed s) (move : Move (op.Allows origin) s new next)
    (same : next.nextId = s.nextId) (given : ∀ session, op ≠ .put session)
    (before : origin.sessions.Every fun session => session.maxId < origin.nextId)
    (made : AllMade new) (good : exposed → Recoverable s.lsn.toNat new) :
    Numbered exposed low next := by
  cases move with
  | lock locks => exact h.raise (UInt64.le_refl _) rfl rfl rfl
  | tell notice => exact h.raise (UInt64.le_refl _) rfl rfl rfl
  | takeId => exact h.raise (UInt64.le_of_eq same.symm) rfl rfl rfl
  | @change logged bytes log allowed run =>
    obtain ⟨running, -, file, -⟩ := handOver_ok run
    have positive : 0 < s.nextId := UInt64.lt_of_le_of_lt (UInt64.le_iff_toNat_le.2 (by simp)) h.handed
    have image : ∀ session, logged = .upsert session →
        session.Ascending ∧ session.maxId < s.nextId := by
      rintro session rfl
      exact allowed.numbers given positive before h.sessions
    exact (h.published durable (durable.isOpen running) file image good).countBytes bytes
  | fail _ _ => cases made _ (List.mem_singleton_self _)

/-- The moves of an operation keep the invariant as long as there are numbers. -/
theorem draws {op : Operation} {origin : Store} {n : Nat} (h : Numbered exposed low s)
    (durable : Durable exposed s) (moves : Draws (op.Allows origin) n s new next)
    (given : ∀ session, op ≠ .put session)
    (before : origin.sessions.Every fun session => session.maxId < origin.nextId)
    (room : s.nextId.toNat + n < UInt64.size) (made : AllMade new)
    (good : exposed → Recoverable s.lsn.toNat new) : Numbered exposed low next := by
  induction moves with
  | refl s => exact h
  | @keep n s middle last first more move same _ ih =>
    obtain ⟨made, made'⟩ := allMade_append.1 made
    have good' : exposed → Recoverable s.lsn.toNat first := fun mayDie => (good mayDie).left
    have regular : Move (fun s => Operation.MayLog s op) s first middle :=
      move.mono fun _ allowed => allowed.1
    -- The move takes positions in the log, so that the rest of the moves starts further on.
    refine ih (h.move durable move same given before made good')
      (durable.move regular made good') (by rw [same]; exact room) made' fun mayDie => ?_
    have lsn := ((durable.intact (.inl mayDie)).move regular (good' mayDie)).2
    rw [lsn]
    exact (good mayDie).right
  | @draw n s last attempts _ ih =>
    have succ : (s.nextId + 1).toNat = s.nextId.toNat + 1 := by
      rw [UInt64.toNat_add, UInt64.toNat_one]
      exact Nat.mod_eq_of_lt (show s.nextId.toNat + 1 < UInt64.size by omega)
    have later : s.nextId ≤ s.nextId + 1 := by
      rw [UInt64.le_iff_toNat_le, succ]
      omega
    refine ih (h.raise later rfl rfl rfl) ⟨durable.running, fun read => ?_⟩ ?_ made good
    · exact (durable.intact read).congr rfl rfl rfl
    · show (s.nextId + 1).toNat + n < UInt64.size
      omega

/-! ## Opening -/

/-- A store that is opened counts on from what its files tell. -/
theorem of_open {settings : StoreSettings} {now : Millis} (h : Numbered exposed low s)
    (intact : s.Intact) (read : exposed ∨ s.closed = true)
    (opened : openFiles settings now s.files = .ok next) :
    Numbered exposed low next ∧ next.nextId ≤ s.nextId := by
  obtain ⟨recovered, found, above, below⟩ := h.top read
  obtain ⟨_, found', sessions, -⟩ := intact.recovers
  cases found.symm.trans found'
  -- The recovered number is below that of the store, so there is one behind it.
  have bound := s.nextId.toNat_lt
  rw [UInt64.lt_iff_toNat_lt] at below
  have succ : (recovered.maxId + 1).toNat = recovered.maxId.toNat + 1 := by
    rw [UInt64.toNat_add, UInt64.toNat_one]
    exact Nat.mod_eq_of_lt (by omega)
  have first : recovered.maxId < recovered.maxId + 1 := by
    rw [UInt64.lt_iff_toNat_lt, succ]
    omega
  have counts : recovered.maxId + 1 ≤ s.nextId := by
    rw [UInt64.le_iff_toNat_le, succ]
    omega
  have resumed : Numbered exposed low (resume settings now s.files recovered) := by
    refine ⟨fun xid session stored => ?_, UInt64.lt_of_le_of_lt above first,
      fun _ => ⟨recovered, found, above, first⟩⟩
    refine ⟨(h.sessions xid session (sessions ▸ stored)).1, ?_⟩
    exact UInt64.lt_of_le_of_lt (maxId_le_of_recover found stored) first
  obtain ⟨_, found', -, same⟩ := of_openFiles_eq_ok opened
  cases found.symm.trans found'
  rcases same with ⟨-, rfl⟩ | ⟨-, rfl⟩
  · exact ⟨resumed, counts⟩
  · refine ⟨resumed.checkpoint, ?_⟩
    obtain ⟨_, _, _, frame, -⟩ := (resume settings now s.files recovered).checkpoint_frame
    rw [frame]
    exact counts

/-- A store that is opened after the process has died finds a number, because none beyond the counter
is in the files. -/
theorem findsNumber (h : Numbered exposed low s) (mayDie : exposed) (settings : StoreSettings)
    (now : Millis) : s.FindsNumber (.crash settings now) := by
  intro files opens found recovers
  cases opens
  obtain ⟨_, found', -, below⟩ := h.top (.inl mayDie)
  cases recovers.symm.trans found'
  exact succ_ne_zero_iff.2 (Nat.lt_of_le_of_lt (UInt64.lt_iff_toNat_lt.1 below) s.nextId.toNat_lt)

end Numbered

end Store

/-! ## Moments -/

namespace Moment

variable {exposed : Prop} {low : UInt64} {moment : Moment}

/-- How many numbers the moment hands out. -/
def drawn (moment : Moment) : Nat :=
  match moment.event with
  | .perform _ => (moment.next.nextId - moment.store.nextId).toNat
  | _ => 0

/-- What the operation of the moment answers, if it succeeds. -/
def answer (moment : Moment) : Option Operation.Outcome :=
  match moment.event with
  | .perform op => (op.runOn moment.store).1.toOption
  | _ => none

/-- The xid that a begin answers. -/
def begun (moment : Moment) : Option Xid :=
  match moment.event, moment.answer with
  | .perform (.begin ..), some (.begun xid) => some xid
  | _, _ => none

/-- The number that a begin gives to its session, or a registration to its branch. -/
def issued (moment : Moment) : Option UInt64 :=
  match moment.event, moment.answer with
  | .perform (.begin ..), some (.begun xid) =>
    (moment.next.sessions.get? xid).map Session.transactionId
  | .perform (.register ..), some (.id id) => some id
  | _, _ => none

/-- An operation leaves the next store. -/
theorem Happens.runOn {op : Operation} (h : moment.Happens) (hop : moment.event = .perform op) :
    (op.runOn moment.store).2 = moment.next := by
  have leads := h.leads
  rw [hop] at leads
  generalize moment.next = next at leads
  cases leads
  rfl

/-- What an operation that succeeds answers and leaves. -/
theorem Happens.of_answer {op : Operation} {outcome : Operation.Outcome} (h : moment.Happens)
    (hop : moment.event = .perform op) (answered : moment.answer = some outcome) :
    op.runOn moment.store = (.ok outcome, moment.next) := by
  rw [answer, hop] at answered
  rw [← h.runOn hop]
  exact Store.runOn_of_toOption answered

/-- What a begin answers is begun. -/
theorem begun_of_ok {address applicationId serviceGroup name : String} {timeout : Millis}
    {xid : Xid} {next : Store}
    (hop : moment.event = .perform (.begin address applicationId serviceGroup name timeout))
    (h : (Operation.begin address applicationId serviceGroup name timeout).runOn moment.store
      = (.ok (.begun xid), next)) : moment.begun = some xid := by
  have answered : moment.answer = some (.begun xid) := by
    rw [answer, hop]
    exact congrArg (fun result => result.1.toOption) h
  simp only [begun, hop, answered]

/-- A moment hands out no more numbers than its operation does at most. -/
theorem Happens.drawn_le {op : Operation} (h : moment.Happens)
    (hop : moment.event = .perform op) : moment.drawn ≤ op.draws := by
  have effects := h.effects op hop
  have count : moment.drawn = ((op.runOn moment.store).2.nextId - moment.store.nextId).toNat := by
    rw [drawn, hop, h.runOn hop]
  rw [count]
  generalize moment.attempts = attempts at effects
  cases effects with
  | upkeep upkeep =>
    rcases op.runOn_of_isUpkeep upkeep moment.store with same | same
    · obtain ⟨_, _, _, frame, -⟩ := moment.store.checkpoint_frame
      simp [same, frame]
    · obtain ⟨_, _, _, frame, -⟩ := moment.store.shutdown_frame
      simp [same, frame]
  | moves _ _ fewer moves _ =>
    rw [moves.nextId, UInt64.add_comm, UInt64.add_sub_cancel]
    exact Nat.le_trans (Nat.mod_le ..) fewer

/-- A number that is issued is the next one, and it stands in a stored session then. -/
theorem Happens.of_issued {id : UInt64} (h : moment.Happens) (hid : moment.issued = some id) :
    id = moment.store.nextId ∧ ∃ xid session, moment.next.sessions.get? xid = some session
      ∧ id ≤ session.maxId := by
  unfold issued at hid
  split at hid
  · next address applicationId serviceGroup name timeout xid hop answered =>
    obtain ⟨same, sessions, -⟩ := Store.sessions_of_begin (h.of_answer hop answered)
    cases same
    have found := SessionTable.get?_insert_self moment.store.sessions
      (moment.store.begunSession address applicationId serviceGroup name timeout)
    rw [← sessions] at found
    obtain ⟨session, stored, rfl⟩ := Option.map_eq_some_iff.1 hid
    cases found.symm.trans stored
    exact ⟨rfl, _, _, found, (Session.maxId_le_iff.1 (UInt64.le_refl _)).1⟩
  · next xid registration _ hop answered =>
    cases hid
    obtain ⟨before, stored, -, same, sessions, -⟩ :=
      Store.sessions_of_register (h.of_answer hop answered)
    cases same
    have found := SessionTable.get?_insert_self moment.store.sessions
      (moment.store.registeredSession before registration)
    rw [← sessions] at found
    refine ⟨rfl, _, _, found, ?_⟩
    -- The number stands in the session, also if a branch had it before.
    have has := before.hasBranch_addBranch
      (before.registeredBranch registration moment.store.nextId moment.store.clock)
    obtain ⟨branch, hbranch, hid⟩ := List.any_eq_true.1 has
    have most := (Session.maxId_le_iff.1 (UInt64.le_refl
      (moment.store.registeredSession before registration).maxId)).2 branch hbranch
    rwa [beq_iff_eq.1 hid] at most
  · cases hid

/-- The xid of a session that is begun is made of an address and the number that is issued. -/
theorem Happens.of_begun {xid : Xid} (h : moment.Happens) (hxid : moment.begun = some xid) :
    ∃ address : String, xid = s!"{address}:{moment.store.nextId}"
      ∧ moment.issued = some moment.store.nextId := by
  unfold begun at hxid
  split at hxid
  · next address applicationId serviceGroup name timeout xid hop answered =>
    cases hxid
    obtain ⟨same, sessions, -⟩ := Store.sessions_of_begin (h.of_answer hop answered)
    cases same
    have found := SessionTable.get?_insert_self moment.store.sessions
      (moment.store.begunSession address applicationId serviceGroup name timeout)
    rw [← sessions] at found
    refine ⟨address, rfl, ?_⟩
    simp only [issued, hop, answered]
    exact congrArg (Option.map Session.transactionId) found
  · cases hxid

end Moment

namespace Store.Numbered

variable {exposed : Prop} {low : UInt64} {s next : Store} {e : Event} {new : List Attempt}

/-- An event keeps the invariant as long as there are numbers. -/
theorem event {drawn : Nat} (h : Numbered exposed low s) (durable : Durable exposed s)
    (happens : Next s e new next) (effects : ∀ op, e = .perform op → op.Effects s new)
    (given : ∀ session, e ≠ .perform (.put session))
    (dies : ∀ settings now, e = .crash settings now → exposed) (made : AllMade new)
    (good : exposed → Recoverable s.lsn.toNat new)
    (counted : ∀ op, e = .perform op → (next.nextId - s.nextId).toNat = drawn)
    (room : s.nextId.toNat + drawn < UInt64.size) :
    Numbered exposed low next ∧ next.nextId.toNat ≤ s.nextId.toNat + drawn := by
  cases happens with
  | @perform op attempts _ =>
    have count := counted op rfl
    cases effects op rfl with
    | upkeep upkeep =>
      have same : (op.runOn s).2.nextId = s.nextId := by
        rcases op.runOn_of_isUpkeep upkeep s with same | same
        · obtain ⟨_, _, _, frame, -⟩ := s.checkpoint_frame
          rw [same, frame]
        · obtain ⟨_, _, _, frame, -⟩ := s.shutdown_frame
          rw [same, frame]
      refine ⟨?_, by rw [same]; omega⟩
      rcases op.runOn_of_isUpkeep upkeep s with same | same
      · exact same ▸ h.checkpoint
      · exact same ▸ h.shutdown durable
    | @moves _ n _ _ fewer moves _ =>
      -- The counter tells how many numbers were handed out, because it is one at most.
      have few : n ≤ 1 := Nat.le_trans fewer op.draws_le_one
      have small : (UInt64.ofNat n).toNat = n :=
        UInt64.toNat_ofNat_of_lt' (Nat.lt_of_le_of_lt few (by decide))
      have counter := moves.nextId
      obtain rfl : n = drawn := by
        rw [counter, UInt64.add_comm, UInt64.add_sub_cancel, small] at count
        exact count
      refine ⟨h.draws durable moves (fun session same => given session (congrArg _ same))
        (fun xid session stored => (h.sessions xid session stored).2) room made good, ?_⟩
      rw [counter, UInt64.toNat_add, small]
      exact Nat.mod_le _ _
  | hold locks => exact ⟨h.raise (UInt64.le_refl _) rfl rfl rfl, Nat.le_add_right ..⟩
  | tick now => exact ⟨h.raise (UInt64.le_refl _) rfl rfl rfl, Nat.le_add_right ..⟩
  | reopen opened =>
    obtain ⟨_, _, _, frame, -⟩ := s.shutdown_frame
    obtain ⟨numbered, counts⟩ :=
      (h.shutdown durable).of_open durable.shutdown (.inr (by rw [frame])) opened
    refine ⟨numbered, ?_⟩
    rw [frame, UInt64.le_iff_toNat_le] at counts
    exact Nat.le_add_right_of_le counts
  | @crash settings now _ opened =>
    have mayDie := dies settings now rfl
    obtain ⟨numbered, counts⟩ := h.of_open (durable.intact (.inl mayDie)) (.inl mayDie) opened
    exact ⟨numbered, Nat.le_add_right_of_le (UInt64.le_iff_toNat_le.1 counts)⟩

variable {moment : Moment}

/-- A moment of a regular run keeps the invariant as long as there are numbers. -/
theorem step (h : Numbered exposed low moment.store) (regular : moment.Regular exposed)
    (room : moment.store.nextId.toNat + moment.drawn < UInt64.size) :
    Numbered exposed low moment.next
      ∧ moment.next.nextId.toNat ≤ moment.store.nextId.toNat + moment.drawn := by
  refine h.event regular.durable regular.happens.leads regular.happens.effects regular.given
    regular.dies regular.made regular.recoverable (fun op hop => ?_) room
  rw [Moment.drawn, hop]

/-- The highest number in a stored session has been handed out, and a restart will not go below
it. -/
theorem of_stored {xid : Xid} {session : Session} (h : Numbered exposed low s)
    (durable : Durable exposed s) (stored : s.sessions.get? xid = some session) {id : UInt64}
    (most : id ≤ session.maxId) : Numbered exposed id s where
  sessions := h.sessions
  handed := UInt64.lt_of_le_of_lt most (h.sessions xid session stored).2
  top read := by
    obtain ⟨recovered, found, -, below⟩ := h.top read
    obtain ⟨_, found', sessions, -⟩ := (durable.intact read).recovers
    cases found.symm.trans found'
    rw [← sessions] at stored
    exact ⟨recovered, found, UInt64.le_trans most (maxId_le_of_recover found stored), below⟩

/-- A number that is issued is above all that were issued before, and has been handed out then. -/
theorem issued {id : UInt64} (h : Numbered exposed low moment.store)
    (regular : moment.Regular exposed)
    (room : moment.store.nextId.toNat + moment.drawn < UInt64.size)
    (hid : moment.issued = some id) : low < id ∧ Numbered exposed id moment.next := by
  obtain ⟨rfl, xid, session, stored, most⟩ := regular.happens.of_issued hid
  exact ⟨h.handed, (h.step regular room).1.of_stored regular.durable_next stored most⟩

end Store.Numbered

end SessionRegistry
