import SessionRegistry.Proofs.Session.Stopped

/-!
# Revisions that are made again

What becomes of a revision that is made again on the image that it gave. A stop, an outcome that was
sent and a status that was set leave nothing to change. What goes on again is not stopped any more,
and what was taken up again has not failed. A branch that was removed is not found.

A store dates the image in between, so that every law here speaks about a dated image.

## Main results

* `Session.stop_again` and so on: one law for each revision that a command makes.
-/

namespace SessionRegistry

/-- A session that was sent in a direction leans in that direction. -/
theorem Direction.leaning_target (direction : Direction) :
    direction.target.leaning = direction := by
  cases direction <;> rfl

/-- A session that was taken up again has not failed. -/
theorem GlobalStatus.remedy?_of_remedy? {status target : GlobalStatus}
    (h : status.remedy? = some target) : target.remedy? = none := by
  cases status <;> cases h <;> rfl

/-- The first entry that passes a test is the modified one, if that passes the test as well. -/
theorem find?_modifyFirst {α : Type} {test : α → Bool} {f : α → α}
    (keeps : ∀ a, test (f a) = test a) (l : List α) :
    (modifyFirst test f l).find? test = (l.find? test).map f := by
  induction l with
  | nil => rfl
  | cons a rest ih =>
    unfold modifyFirst
    by_cases passes : test a = true
    · have passes' : test (f a) = true := (keeps a).trans passes
      rw [if_pos passes, List.find?_cons_of_pos passes', List.find?_cons_of_pos passes]
      rfl
    · rw [if_neg passes, List.find?_cons_of_neg passes, List.find?_cons_of_neg passes, ih]

namespace Session

variable {session after : Session} {id : BranchId} {branch : Branch} {f : Branch → Branch}

/-! ## Branches that an operator may manage -/

/-- An operator may manage a branch that is found, unless the session runs in Saga mode. -/
theorem steerableBranch_eq_ok_iff :
    session.steerableBranch id = .ok branch
      ↔ session.isSaga = false ∧ session.branch? id = some branch := by
  unfold steerableBranch requireBranch
  cases session.isSaga with
  | true => simp
  | false => cases session.branch? id <;> simp

/-- The modes of its branches decide whether a session runs in Saga mode. -/
theorem isSaga_eq (session : Session) :
    session.isSaga = (session.branches.map Branch.type).any (· == .saga) := by
  rw [List.any_map]
  rfl

/-- A branch that may be managed may still be managed when it has changed, if it has its number and
its mode. -/
theorem steerableBranch_modifyBranch (h : session.steerableBranch id = .ok branch)
    (keeps : ∀ branch, ((f branch).id, (f branch).type) = (branch.id, branch.type)) :
    (session.modifyBranch id f).steerableBranch id = .ok (f branch) := by
  obtain ⟨plain, found⟩ := steerableBranch_eq_ok_iff.1 h
  refine steerableBranch_eq_ok_iff.2 ⟨?_, ?_⟩
  · have types : ∀ branch, (f branch).type = branch.type := fun branch =>
      (Prod.mk.inj (keeps branch)).2
    rw [isSaga_eq, modifyBranch, map_modifyFirst types, ← isSaga_eq, plain]
  · have ids : ∀ branch, (f branch).id = branch.id := fun branch =>
      (Prod.mk.inj (keeps branch)).1
    rw [branch?, modifyBranch, find?_modifyFirst (fun branch => by rw [ids]), ← branch?, found]
    rfl

/-- A branch that was removed is not found, if the branches have different numbers. -/
theorem steerableBranch_removeBranch (h : session.steerableBranch id = .ok branch)
    (distinct : (session.branches.map Branch.id).Nodup) :
    (session.removeBranch id).steerableBranch id = .error (.notFound (.branch session.xid id)) := by
  obtain ⟨plain, -⟩ := steerableBranch_eq_ok_iff.1 h
  have plain' : (session.removeBranch id).isSaga = false :=
    List.any_eq_false.2 fun branch hbranch =>
      List.any_eq_false.1 plain branch (List.mem_of_mem_eraseP hbranch)
  -- The number has stood in the list once, and so not any more.
  have ids : (session.removeBranch id).branches.map Branch.id
      = (session.branches.map Branch.id).erase id := by
    rw [List.erase_eq_eraseP', List.eraseP_map]
    rfl
  have gone : (session.removeBranch id).branch? id = none := by
    refine List.find?_eq_none.2 fun branch hbranch same => distinct.not_mem_erase (a := id) ?_
    have listed := List.mem_map_of_mem (f := Branch.id) hbranch
    rwa [ids, beq_iff_eq.1 same] at listed
  rw [steerableBranch, if_neg (by simp [plain']), requireBranch, gone]
  rfl

/-! ## Nothing is left to change -/

/-- A session that was stopped is not stopped again. -/
theorem stop_again (h : session.stop = .ok (some after)) (now : Millis) :
    stop { after with modifiedTime := now } = .ok none := by
  obtain ⟨-, -, rfl⟩ := of_stop_eq_ok h
  exact if_pos rfl

/-- A session that was sent in a direction is going there. Without a direction it leans there. -/
theorem sendOutcome_again {direction : Option Direction}
    (h : session.sendOutcome direction = .ok (some after)) (now : Millis) :
    sendOutcome direction { after with modifiedTime := now } = .ok none := by
  obtain ⟨-, rfl⟩ := of_sendOutcome_eq_ok h
  let sent := direction.getD session.status.leaning
  obtain ⟨unended, active⟩ := sent.target_active
  -- So the second request is not refused.
  have sendable : ¬ (sent.target.isTerminal = true ∨ sent.target = .suspended) := by
    simp [unended, active]
  have same : direction.getD sent.target.leaning = sent := by
    rw [sent.leaning_target]
    cases direction <;> rfl
  rw [sendOutcome, if_neg sendable]
  exact congrArg Except.ok (moveTo_eq_none_iff.2 (congrArg Direction.target same).symm)

/-- A session whose status was set has that status. -/
theorem changeStatus_again {status : GlobalStatus} (active : status ≠ .suspended)
    (h : session.changeStatus (some status) = .ok (some after)) (now : Millis) :
    changeStatus (some status) { after with modifiedTime := now } = .ok none := by
  obtain ⟨-, target, rfl, chosen⟩ := of_changeStatus_eq_ok h
  obtain ⟨same, agrees⟩ := chosen.resolve_right (by simp)
  obtain rfl := Option.some.inj same
  rw [changeStatus, if_neg active]
  refine (if_pos agrees).trans ?_
  exact congrArg Except.ok (moveTo_eq_none_iff.2 rfl)

/-- A branch that was stopped is not stopped again. -/
theorem stopBranch_again (h : session.stopBranch id = .ok (some after)) (now : Millis) :
    stopBranch id { after with modifiedTime := now } = .ok none := by
  obtain ⟨branch, steerable, -⟩ := exists_of_bind_eq_ok h
  obtain ⟨-, -, -, rfl⟩ := of_stopBranch_eq_ok h
  have still : steerableBranch { session.modifyBranch id fun branch =>
        { branch with status := .suspended, suspendedFrom := some branch.status } with
          modifiedTime := now } id
      = .ok { branch with status := .suspended, suspendedFrom := some branch.status } :=
    steerableBranch_modifyBranch steerable fun _ => rfl
  rw [stopBranch, still]
  rfl

/-! ## What is refused -/

/-- A session that was stopped and goes on is not stopped. -/
theorem restart_again (sound : session.Sound) (h : session.restart = .ok (some after))
    (now : Millis) :
    ∃ conflict, restart { after with modifiedTime := now } = .error (.invalidState conflict) := by
  obtain ⟨stopped, rfl⟩ := of_restart_eq_ok h
  obtain ⟨status, earlier⟩ := Option.isSome_iff_exists.1 (sound.suspended.2 stopped)
  rw [earlier]
  exact ⟨_, if_pos (sound.earlier status earlier).2⟩

/-- A failed session that was taken up again has not failed. -/
theorem changeStatus_none_again (h : session.changeStatus none = .ok (some after)) (now : Millis) :
    ∃ conflict,
      changeStatus none { after with modifiedTime := now } = .error (.invalidState conflict) := by
  obtain ⟨-, target, rfl, chosen⟩ := of_changeStatus_eq_ok h
  obtain ⟨-, remedy⟩ := chosen.resolve_left (by simp)
  have active := (GlobalStatus.not_isTerminal_of_remedy? remedy).2
  refine ⟨.nothingToRemedy session.xid target, ?_⟩
  rw [changeStatus, if_neg active]
  dsimp only
  rw [GlobalStatus.remedy?_of_remedy? remedy]

/-- A branch that was stopped and goes on is not stopped. -/
theorem restartBranch_again (sound : session.Sound)
    (h : session.restartBranch id = .ok (some after)) (now : Millis) :
    ∃ conflict,
      restartBranch id { after with modifiedTime := now } = .error (.invalidState conflict) := by
  obtain ⟨branch, steerable, -⟩ := exists_of_bind_eq_ok h
  obtain ⟨found, hfound, stopped, rfl⟩ := of_restartBranch_eq_ok h
  cases (branch?_of_steerableBranch steerable).symm.trans hfound
  -- The branch remembers a status that it had before phase two.
  have own := sound.branches branch (List.mem_of_find?_eq_some hfound)
  obtain ⟨status, earlier⟩ := Option.isSome_iff_exists.1 (own.suspended.2 stopped)
  have active : branch.suspendedFrom.getD .registered ≠ .suspended := by
    rw [earlier]
    rcases own.earlier status earlier with rfl | rfl <;> decide
  let restarted (branch : Branch) : Branch :=
    { branch with status := branch.suspendedFrom.getD .registered, suspendedFrom := none }
  have still : steerableBranch { session.modifyBranch id restarted with modifiedTime := now } id
      = .ok (restarted branch) := steerableBranch_modifyBranch steerable fun _ => rfl
  refine ⟨.branchNotStopped id (restarted branch).status, ?_⟩
  rw [restartBranch, still]
  exact if_pos active

/-! ## What is not found -/

/-- A branch that was dropped is not found. -/
theorem dropBranch_again (distinct : (session.branches.map Branch.id).Nodup)
    (h : session.dropBranch id = .ok (some after)) (now : Millis) :
    dropBranch id { after with modifiedTime := now }
      = .error (.notFound (.branch session.xid id)) := by
  obtain ⟨branch, steerable, -⟩ := exists_of_bind_eq_ok h
  obtain rfl := of_dropBranch_eq_ok h
  have gone : steerableBranch { session.removeBranch id with modifiedTime := now } id = _ :=
    steerableBranch_removeBranch steerable distinct
  rw [dropBranch, gone]
  rfl

theorem forceDropBranch_again (distinct : (session.branches.map Branch.id).Nodup)
    (h : session.forceDropBranch id = .ok (some after)) (now : Millis) :
    forceDropBranch id { after with modifiedTime := now }
      = .error (.notFound (.branch session.xid id)) := by
  obtain ⟨_, dropped, -⟩ := exists_of_bind_eq_ok h
  obtain ⟨branch, steerable, -⟩ := exists_of_bind_eq_ok dropped
  obtain rfl := of_forceDropBranch_eq_ok h
  have gone : steerableBranch { session.removeBranch id with modifiedTime := now } id = _ :=
    steerableBranch_removeBranch steerable distinct
  rw [forceDropBranch, gone]
  rfl

end Session

end SessionRegistry
