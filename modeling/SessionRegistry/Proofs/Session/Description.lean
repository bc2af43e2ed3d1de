import SessionRegistry.Proofs.RowLock.Rewriting
import SessionRegistry.Proofs.Session.Stopped

/-!
# Descriptive data

A session and its branches are described when they begin, and every image of them says the same.
What a revision changes is told here: statuses and times, the lock key of a branch where a row is
released, and the list of branches, from which one may go.

## Main definitions

* `Branch.Alike`, `Session.Alike`: two images agree in the descriptive data.
* `Branch.Keeps`: what an image keeps of the branch before it, its rows included.
* `Session.Stays`: a new image keeps the one before with all of its branches.
* `Session.Evolves`: the list of branches may change too, by one branch.

## Main results

* `BranchesChange.origin`, `BranchesChange.keeps`: what becomes of one branch.
* `Operation.Revises.evolves`: every revision gives an image that evolves from the revised one.
-/

namespace SessionRegistry

/-! ## Branches -/

/-- Two images of a branch agree in the data that describe it. -/
structure Branch.Alike (after before : Branch) : Prop where
  xid : after.xid = before.xid
  id : after.id = before.id
  applicationId : after.applicationId = before.applicationId
  transactionName : after.transactionName = before.transactionName
  type : after.type = before.type
  resourceId : after.resourceId = before.resourceId
  clientId : after.clientId = before.clientId
  applicationData : after.applicationData = before.applicationData
  beginTime : after.beginTime = before.beginTime

/-- What an image keeps of the branch before it: the descriptive data, and the lock key unless rows
have been released. No row has been added, and none is named more often than before. -/
structure Branch.Keeps (released : Prop) (after before : Branch) : Prop
    extends after.Alike before where
  rows : after.lockedRows.Subperm before.lockedRows
  lockKey : ¬ released → after.lockKey = before.lockKey

namespace Branch

variable {released : Prop} {before middle after : Branch}

theorem Keeps.refl (branch : Branch) : branch.Keeps released branch :=
  ⟨⟨rfl, rfl, rfl, rfl, rfl, rfl, rfl, rfl, rfl⟩, .refl _, fun _ => rfl⟩

theorem Keeps.trans (h : after.Keeps released middle) (h' : middle.Keeps released before) :
    after.Keeps released before where
  xid := h.xid.trans h'.xid
  id := h.id.trans h'.id
  applicationId := h.applicationId.trans h'.applicationId
  transactionName := h.transactionName.trans h'.transactionName
  type := h.type.trans h'.type
  resourceId := h.resourceId.trans h'.resourceId
  clientId := h.clientId.trans h'.clientId
  applicationData := h.applicationData.trans h'.applicationData
  beginTime := h.beginTime.trans h'.beginTime
  rows := h.rows.trans h'.rows
  lockKey kept := (h.lockKey kept).trans (h'.lockKey kept)

/-- What is kept over a time without releases is kept over a longer time. -/
theorem Keeps.mono {longer : Prop} (h : after.Keeps released before) (more : released → longer) :
    after.Keeps longer before :=
  { h with lockKey := fun none => h.lockKey fun released => none (more released) }

/-- Statuses and the time of the latest change are not among what is kept. -/
theorem keeps_withStatus (branch : Branch) (status : BranchStatus)
    (suspendedFrom : Option BranchStatus) (modifiedTime : Millis) :
    Keeps released { branch with status, suspendedFrom, modifiedTime } branch :=
  ⟨⟨rfl, rfl, rfl, rfl, rfl, rfl, rfl, rfl, rfl⟩, .refl _, fun _ => rfl⟩

/-- The release of a row changes the lock key alone, and adds no row. -/
theorem keeps_releaseBranch (target : LockTarget) (branch : Branch) (h : released) :
    (target.releaseBranch branch).Keeps released branch := by
  have rows := target.lockedRows_releaseBranch_subperm branch
  obtain ⟨lockKey, same⟩ := target.releaseBranch_eq branch
  rw [same] at rows ⊢
  exact ⟨⟨rfl, rfl, rfl, rfl, rfl, rfl, rfl, rfl, rfl⟩, rows, fun kept => absurd h kept⟩

end Branch

/-! ## Sessions -/

/-- Two images of a session agree in the data that describe it. -/
structure Session.Alike (after before : Session) : Prop where
  xid : after.xid = before.xid
  transactionId : after.transactionId = before.transactionId
  applicationId : after.applicationId = before.applicationId
  serviceGroup : after.serviceGroup = before.serviceGroup
  name : after.name = before.name
  timeout : after.timeout = before.timeout
  beginTime : after.beginTime = before.beginTime

/-- An entry of a list has a partner in a list that is related entry by entry. -/
theorem exists_mem_of_forall₂ {α β : Type} {R : α → β → Prop} {l : List α} {l' : List β}
    (h : List.Forall₂ R l l') {a : α} (ha : a ∈ l) : ∃ b ∈ l', R a b := by
  induction h with
  | nil => cases ha
  | @cons first partner _ _ related _ ih =>
    rcases List.mem_cons.1 ha with rfl | ha
    · exact ⟨partner, List.mem_cons_self, related⟩
    · obtain ⟨b, hb, related⟩ := ih ha
      exact ⟨b, List.mem_cons_of_mem _ hb, related⟩

/-- Lists that are related entry by entry to a third one are related to each other. -/
theorem forall₂_trans {α : Type} {R : α → α → Prop} (trans : ∀ {a b c}, R a b → R b c → R a c)
    {first second third : List α} (h : List.Forall₂ R first second)
    (h' : List.Forall₂ R second third) : List.Forall₂ R first third := by
  induction h generalizing third with
  | nil =>
    cases h'
    exact .nil
  | cons related _ ih =>
    cases h' with
    | cons related' more => exact .cons (trans related related') (ih more)

/-- How a list of branches changes in one step: every branch stays in its place, or a newly
registered one is appended, or one is taken out. -/
inductive BranchesChange (released : Prop) (registers : Branch → Prop) (before : List Branch) :
    List Branch → Prop where
  | stay {after : List Branch} (each : List.Forall₂ (Branch.Keeps released) after before) :
    BranchesChange released registers before after
  | append {fresh : Branch} (registered : registers fresh)
    (isNew : ∀ branch ∈ before, branch.id ≠ fresh.id) :
    BranchesChange released registers before (before ++ [fresh])
  | remove {front back : List Branch} {gone : Branch} (split : before = front ++ gone :: back) :
    BranchesChange released registers before (front ++ back)

namespace BranchesChange

variable {released : Prop} {registers : Branch → Prop} {before after : List Branch}

theorem mono {released' : Prop} {registers' : Branch → Prop}
    (h : BranchesChange released registers before after) (more : released → released')
    (others : ∀ branch, registers branch → registers' branch) :
    BranchesChange released' registers' before after := by
  cases h with
  | stay each => exact .stay (each.imp fun _ _ keeps => keeps.mono more)
  | append registered isNew => exact .append (others _ registered) isNew
  | remove split => exact .remove split

/-- Every branch in the list afterwards was in it before, or is a newly registered one with another
number. -/
theorem origin {branch : Branch} (h : BranchesChange released registers before after)
    (hbranch : branch ∈ after) :
    (∃ source ∈ before, branch.Keeps released source)
      ∨ registers branch ∧ ∀ earlier ∈ before, earlier.id ≠ branch.id := by
  cases h with
  | stay each => exact .inl (exists_mem_of_forall₂ each hbranch)
  | append registered isNew =>
    rcases List.mem_append.1 hbranch with hbranch | hbranch
    · exact .inl ⟨branch, hbranch, .refl branch⟩
    · exact .inr (List.mem_singleton.1 hbranch ▸ ⟨registered, isNew⟩)
  | @remove front back gone split =>
    refine .inl ⟨branch, split ▸ ?_, .refl branch⟩
    rw [List.mem_append] at hbranch ⊢
    exact hbranch.imp_right (List.mem_cons_of_mem gone)

/-- A branch that was in the list and is in it again keeps what branches keep. -/
theorem keeps {branch earlier : Branch} (h : BranchesChange released registers before after)
    (distinct : (before.map Branch.id).Nodup) (hearlier : earlier ∈ before)
    (hbranch : branch ∈ after) (same : branch.id = earlier.id) :
    branch.Keeps released earlier := by
  rcases h.origin hbranch with ⟨source, hsource, keeps⟩ | ⟨-, isNew⟩
  · -- A branch of the earlier list with this number is the earlier branch itself.
    obtain rfl := Session.eq_of_id_eq distinct hsource hearlier (keeps.id.symm.trans same)
    exact keeps
  · exact absurd same.symm (isNew earlier hearlier)

end BranchesChange

/-- A new image of a session agrees with the one before in the descriptive data, and so do its
branches, one by one. -/
structure Session.Stays (released : Prop) (after before : Session) : Prop
    extends after.Alike before where
  each : List.Forall₂ (Branch.Keeps released) after.branches before.branches

/-- A new image of a session agrees with the one before in the descriptive data, and its branches
have changed in one step. -/
structure Session.Evolves (released : Prop) (registers : Branch → Prop) (after before : Session) :
    Prop extends after.Alike before where
  branches : BranchesChange released registers before.branches after.branches

namespace Session

variable {released : Prop} {registers : Branch → Prop} {before middle after session : Session}
  {id : BranchId}

theorem Alike.refl (session : Session) : session.Alike session :=
  ⟨rfl, rfl, rfl, rfl, rfl, rfl, rfl⟩

theorem Alike.trans (h : after.Alike middle) (h' : middle.Alike before) : after.Alike before where
  xid := h.xid.trans h'.xid
  transactionId := h.transactionId.trans h'.transactionId
  applicationId := h.applicationId.trans h'.applicationId
  serviceGroup := h.serviceGroup.trans h'.serviceGroup
  name := h.name.trans h'.name
  timeout := h.timeout.trans h'.timeout
  beginTime := h.beginTime.trans h'.beginTime

/-- The time of its latest change does not describe a session. -/
theorem Alike.modifiedAt (h : after.Alike before) (now : Millis) :
    Alike { after with modifiedTime := now } before :=
  ⟨h.xid, h.transactionId, h.applicationId, h.serviceGroup, h.name, h.timeout, h.beginTime⟩

/-! ### Images with the same branches -/

theorem Stays.trans (h : after.Stays released middle) (h' : middle.Stays released before) :
    after.Stays released before :=
  ⟨h.toAlike.trans h'.toAlike, forall₂_trans (fun h h' => h.trans h') h.each h'.each⟩

theorem Stays.modifiedAt (h : after.Stays released before) (now : Millis) :
    Stays released { after with modifiedTime := now } before :=
  ⟨h.toAlike.modifiedAt now, h.each⟩

/-- Statuses are not among the descriptive data. -/
theorem stays_withStatus (session : Session) (status : GlobalStatus)
    (suspendedFrom : Option GlobalStatus) :
    Stays released { session with status, suspendedFrom } session :=
  ⟨⟨rfl, rfl, rfl, rfl, rfl, rfl, rfl⟩, List.forall₂_same.2 fun _ _ => .refl _⟩

theorem Stays.refl (session : Session) : session.Stays released session :=
  stays_withStatus session session.status session.suspendedFrom

theorem stays_modifyBranch {f : Branch → Branch} (h : ∀ branch, (f branch).Keeps released branch) :
    (session.modifyBranch id f).Stays released session := by
  refine ⟨⟨rfl, rfl, rfl, rfl, rfl, rfl, rfl⟩, ?_⟩
  show List.Forall₂ _ (modifyFirst _ f session.branches) _
  induction session.branches with
  | nil => exact .nil
  | cons branch rest ih =>
    unfold modifyFirst
    split
    · exact .cons (h branch) (List.forall₂_same.2 fun _ _ => .refl _)
    · exact .cons (.refl branch) ih

theorem stays_release (target : LockTarget) (session : Session) (h : released) :
    (target.without session).Stays released session := by
  refine ⟨⟨rfl, rfl, rfl, rfl, rfl, rfl, rfl⟩, ?_⟩
  show List.Forall₂ _ (session.branches.map target.releaseBranch) _
  rw [List.forall₂_map_left_iff, List.forall₂_same]
  exact fun branch _ => branch.keeps_releaseBranch target h

/-! ### Images with one branch more or less -/

theorem Stays.evolves (h : after.Stays released before) : after.Evolves released registers before :=
  ⟨h.toAlike, .stay h.each⟩

theorem Evolves.modifiedAt (h : after.Evolves released registers before) (now : Millis) :
    Evolves released registers { after with modifiedTime := now } before :=
  ⟨h.toAlike.modifiedAt now, h.branches⟩

theorem evolves_removeBranch (session : Session) (id : BranchId) :
    (session.removeBranch id).Evolves released registers session := by
  refine ⟨⟨rfl, rfl, rfl, rfl, rfl, rfl, rfl⟩, ?_⟩
  show BranchesChange _ _ _ (session.branches.eraseP (·.id == id))
  rcases List.exists_or_eq_self_of_eraseP (·.id == id) session.branches with
    same | ⟨gone, front, back, -, -, split, same⟩
  · rw [same]
    exact .stay (List.forall₂_same.2 fun _ _ => .refl _)
  · rw [same]
    exact .remove split

/-- A registration appends a branch, or does nothing if its number is taken. -/
theorem evolves_addBranch {fresh : Branch} (registered : registers fresh) :
    (session.addBranch fresh).Evolves released registers session := by
  by_cases taken : session.hasBranch fresh.id = true
  · rw [addBranch, if_pos taken]
    exact (Stays.refl session).evolves
  · rw [addBranch, if_neg taken]
    refine ⟨⟨rfl, rfl, rfl, rfl, rfl, rfl, rfl⟩, .append registered fun branch hbranch same => ?_⟩
    exact taken (List.any_eq_true.2 ⟨branch, hbranch, beq_iff_eq.2 same⟩)

/-- What an image evolves from does not depend on what else may happen. -/
theorem Evolves.mono {released' : Prop} {registers' : Branch → Prop}
    (h : after.Evolves released registers before) (more : released → released')
    (others : ∀ branch, registers branch → registers' branch) :
    after.Evolves released' registers' before :=
  ⟨h.toAlike, h.branches.mono more others⟩

end Session

/-! ## Operations -/

namespace Operation

/-- The operation releases a row. -/
def Releases (op : Operation) : Prop :=
  ∃ target, op = .command (.deleteLock target)

/-- The operation registers a branch for a session. -/
def Registers (op : Operation) (session : Session) (branch : Branch) : Prop :=
  ∃ registration id now, op = .register session.xid registration
    ∧ branch = session.registeredBranch registration id now

variable {now : Millis} {op : Operation} {xid : Xid} {revision : Session → Revision}
  {registers : Branch → Prop} {before after : Session}

/-- A revision that drops no branch keeps all of them. -/
theorem Revises.stays (h : op.Revises now xid revision)
    (others : ∀ id,
      op ≠ .command (.deleteBranch xid id) ∧ op ≠ .command (.forceDeleteBranch xid id))
    (revised : revision before = .ok (some after)) : after.Stays op.Releases before := by
  cases h with
  | reportBranch _ id status =>
    obtain ⟨_, -, -, -, rfl⟩ := Session.of_reportBranch_eq_ok revised
    exact Session.stays_modifyBranch fun branch => branch.keeps_withStatus _ _ _
  | reportSession _ status =>
    obtain ⟨-, -, -, rfl⟩ := Session.of_report_eq_ok revised
    exact before.stays_withStatus _ _
  | stop _ =>
    obtain ⟨-, -, rfl⟩ := Session.of_stop_eq_ok revised
    exact before.stays_withStatus _ _
  | restart _ =>
    obtain ⟨-, rfl⟩ := Session.of_restart_eq_ok revised
    exact before.stays_withStatus _ _
  | sendOutcome _ direction =>
    obtain ⟨-, rfl⟩ := Session.of_sendOutcome_eq_ok revised
    exact before.stays_withStatus _ _
  | changeStatus _ _ =>
    obtain ⟨-, _, rfl, -⟩ := Session.of_changeStatus_eq_ok revised
    exact before.stays_withStatus _ _
  | dropBranch _ id => exact absurd rfl (others id).1
  | forceDropBranch _ id => exact absurd rfl (others id).2
  | stopBranch _ id =>
    obtain ⟨_, -, -, rfl⟩ := Session.of_stopBranch_eq_ok revised
    exact Session.stays_modifyBranch fun branch => branch.keeps_withStatus _ _ _
  | restartBranch _ id =>
    obtain ⟨_, -, -, rfl⟩ := Session.of_restartBranch_eq_ok revised
    exact Session.stays_modifyBranch fun branch => branch.keeps_withStatus _ _ _
  | @releaseRow target =>
    exact Session.of_releaseRow_eq_ok revised ▸ Session.stays_release target before ⟨target, rfl⟩

/-- Every revision gives an image that evolves from the revised one. -/
theorem Revises.evolves (h : op.Revises now xid revision)
    (revised : revision before = .ok (some after)) :
    after.Evolves op.Releases registers before := by
  by_cases others : ∀ id,
      op ≠ .command (.deleteBranch xid id) ∧ op ≠ .command (.forceDeleteBranch xid id)
  · exact (h.stays others revised).evolves
  · cases h with
    | dropBranch _ id => exact Session.of_dropBranch_eq_ok revised ▸ before.evolves_removeBranch id
    | forceDropBranch _ id =>
      exact Session.of_forceDropBranch_eq_ok revised ▸ before.evolves_removeBranch id
    | _ => exact absurd (by simp) others

end Operation

end SessionRegistry
