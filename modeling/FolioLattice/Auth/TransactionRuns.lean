/-
Whatever the order of the calls' steps: an authentication transaction is returned at most
once, as it was begun, before it expires and not after it was discarded.
-/

import FolioLattice.Auth.Transactions

namespace FolioLattice.Auth

open FolioLattice.Text FolioLattice.Data FolioLattice.Concurrency

section Runs

variable {τ : Type} [LinearOrder τ] [Zero τ] [Add τ]

/-! ### The lock for writers -/

/-- What a connection in a transaction knows of the committed rows. -/
def Working (rows : List (AuthRow τ)) : TransactionThread τ → Prop
  | .expiring _ now rows' => rows' = deleteExpired rows now
  | .inserting issue now rows' => insertAuth (deleteExpired rows now) (issue.row now) = some rows'
  | .deleting state now row => selectAuth rows (sessionHash state) now = some row
  | .counting state now row rows' count =>
      selectAuth rows (sessionHash state) now = some row ∧
        rows' = deleteAuth rows row.stateHash ∧ count = deletedAuth rows row.stateHash
  | .erasing state rows' => rows' = deleteAuth rows (sessionHash state)
  | _ => True

theorem transactionLock : Lock (TransactionStep (τ := τ)) (fun db => db.writing = true)
    (fun thread => thread.writes = true) (fun db => db.transactions) where
  taken s l s' l' step idle writes := by
    cases step <;> first
      | exact absurd writes Bool.false_ne_true
      | exact absurd rfl idle
      | (rename_i free; exact fun locked => Bool.false_ne_true (free.symm.trans locked))
  held s l s' l' step locked writes := by
    cases step <;> first
      | exact absurd writes Bool.false_ne_true
      | exact locked
      | rfl
  shut s l s' l' step idle writes := by
    cases step <;> first
      | exact absurd writes Bool.false_ne_true
      | exact absurd rfl idle
      | rfl
  others s l s' l' step idle locked := by
    cases step <;> first
      | exact absurd rfl idle
      | exact locked
      | rfl
      | exact (if_neg idle).trans locked
  guarded s l s' l' step idle := by
    cases step <;> first
      | exact absurd rfl idle
      | rfl

/-- Every connection in a transaction works on the rows that are committed. -/
theorem working_throughout {ι : Type} [DecidableEq ι] {start config : Config ι (TransactionDb τ)
    (TransactionThread τ)} {events : List (Event ι (TransactionDb τ))}
    (run : Run TransactionStep start events config)
    (initial : ∀ i, ¬(start.threads i).writes = true) (i : ι) :
    Working config.shared.transactions (config.threads i) := by
  by_cases writes : (config.threads i).writes = true
  · refine ((run.locked (L := Working) transactionLock ?_ initial).1 i writes).2
    intro s l s' l' known step writes'
    cases step with
    | insert inserted =>
        have before := (known rfl).2
        dsimp only [Working] at before ⊢
        rw [← before]
        exact inserted
    | select found => exact found
    | delete => exact ⟨(known rfl).2, rfl, rfl⟩
    | expire free => exact rfl
    | erase good free => exact rfl
    | beginImmediate free => exact trivial
    | _ => exact absurd writes' Bool.false_ne_true
  · cases state : config.threads i <;> first
      | exact trivial
      | (rw [state] at writes; exact absurd rfl writes)

/-! ### What a step commits -/

/-- The call that a thread runs, while it has not raised. -/
def TransactionThread.call : TransactionThread τ → Option (TransactionCall τ)
  | .beginning issue => some (.begin issue)
  | .timed issue _ => some (.begin issue)
  | .expiring issue _ _ => some (.begin issue)
  | .inserting issue _ _ => some (.begin issue)
  | .begun issue _ => some (.begin issue)
  | .consuming state => some (.consume state)
  | .asking state _ => some (.consume state)
  | .selecting state _ => some (.consume state)
  | .deleting state _ _ => some (.consume state)
  | .counting state _ _ _ _ => some (.consume state)
  | .committed state _ _ => some (.consume state)
  | .consumed state _ _ => some (.consume state)
  | .missed state => some (.consume state)
  | .discarding state => some (.discard state)
  | .erasing state _ => some (.discard state)
  | .discarded state => some (.discard state)
  | .raised => none

/-- The transaction that a call of `consume_auth` has taken out and returns, with its
reading of the clock. -/
def TransactionThread.taken : TransactionThread τ → Option (List Char × τ × AuthTransaction)
  | .committed state now row => some (state, now, row.transaction state)
  | .consumed state now transaction => some (state, now, transaction)
  | _ => none

/-- What a step does to the committed rows, and what it makes of its thread. -/
inductive Commits (rows : List (AuthRow τ)) (thread : TransactionThread τ)
    (rows' : List (AuthRow τ)) (thread' : TransactionThread τ) : Prop where
  | kept (same : rows' = rows)
      (silent : thread'.taken = none ∨ thread'.taken = thread.taken)
      (unfinished : ∀ issue now, thread' ≠ .begun issue now)
      (unending : ∀ issue now, thread ≠ .begun issue now)
  | began (issue : AuthIssue τ) (now : τ) (same : rows' = deleteExpired rows now ++ [issue.row now])
      (free : ∀ known ∈ deleteExpired rows now, known.stateHash ≠ sessionHash issue.state)
      (from_begin : ∃ working, thread = .inserting issue now working)
      (done : thread' = .begun issue now)
  | took (state : List Char) (now : τ) (row : AuthRow τ)
      (found : selectAuth rows (sessionHash state) now = some row)
      (same : rows' = deleteAuth rows row.stateHash)
      (fresh : thread.taken = none) (done : thread' = .committed state now row)
      (unending : ∀ issue now, thread ≠ .begun issue now)
  | removed (hash : PyStr) (same : rows' = deleteAuth rows hash) (silent : thread'.taken = none)
      (unfinished : ∀ issue now, thread' ≠ .begun issue now)
      (unending : ∀ issue now, thread ≠ .begun issue now)

omit [LinearOrder τ] [Zero τ] [Add τ] in
theorem insertAuth_some {rows rows' : List (AuthRow τ)} {row : AuthRow τ}
    (inserted : insertAuth rows row = some rows') :
    rows' = rows ++ [row] ∧ ∀ known ∈ rows, known.stateHash ≠ row.stateHash := by
  unfold insertAuth at inserted
  split at inserted
  · cases inserted
  · rename_i free
    cases inserted
    refine ⟨rfl, fun known member same => ?_⟩
    exact free (List.any_eq_true.mpr ⟨known, member, decide_eq_true same⟩)

theorem TransactionStep.commits {db db' : TransactionDb τ} {thread thread' : TransactionThread τ}
    (step : TransactionStep db thread db' thread') (working : Working db.transactions thread) :
    Commits db.transactions thread db'.transactions thread' := by
  cases step with
  | @commitBegin _ issue now rows =>
      obtain ⟨same, free⟩ := insertAuth_some working
      exact .began issue now same free ⟨rows, rfl⟩ rfl
  | commitConsume =>
      obtain ⟨found, same, _⟩ := working
      exact .took _ _ _ found same rfl rfl (fun _ _ impossible => by cases impossible)
  | miscounted wrong =>
      exact .removed _ working.2.1 rfl (fun _ _ impossible => by cases impossible)
        (fun _ _ impossible => by cases impossible)
  | commitDiscard =>
      exact .removed _ working rfl (fun _ _ impossible => by cases impossible)
        (fun _ _ impossible => by cases impossible)
  | consume =>
      exact .kept rfl (Or.inr rfl) (fun _ _ impossible => by cases impossible)
        (fun _ _ impossible => by cases impossible)
  | raise running =>
      refine .kept rfl (Or.inl rfl) (fun _ _ impossible => by cases impossible) ?_
      intro issue now ended
      rw [ended] at running
      cases running
  | _ =>
      exact .kept rfl (Or.inl rfl) (fun _ _ impossible => by cases impossible)
        (fun _ _ impossible => by cases impossible)

theorem TransactionStep.call {db db' : TransactionDb τ} {thread thread' : TransactionThread τ}
    (step : TransactionStep db thread db' thread') :
    thread'.call = none ∨ thread'.call = thread.call := by
  cases step <;> first
    | exact Or.inl rfl
    | exact Or.inr rfl

end Runs

/-! ### What every state of a run keeps -/

section States

variable {τ : Type}

def TransactionCall.state : TransactionCall τ → List Char
  | .begin issue => issue.state
  | .consume state => state
  | .discard state => state

variable {ι : Type} [LinearOrder τ] [Add τ] {calls : ι → TransactionCall τ}

/-- No two calls of `begin_auth` draw the same state. -/
def DrawsApart (calls : ι → TransactionCall τ) : Prop :=
  ∀ i j issue issue', calls i = .begin issue → calls j = .begin issue' →
    issue.state = issue'.state → i = j

/-- SHA-256 has no collision on the states that the calls are about. -/
def StatesApart (calls : ι → TransactionCall τ) : Prop :=
  ∀ i j, sessionHash (calls i).state = sessionHash (calls j).state →
    (calls i).state = (calls j).state

/-- No committed row has the hash. -/
def Vacant (db : TransactionDb τ) (hash : PyStr) : Prop :=
  ∀ row ∈ db.transactions, row.stateHash ≠ hash

/-- Rows come from calls that have ended, and what was returned is there no more. -/
structure Consistent (calls : ι → TransactionCall τ)
    (config : Config ι (TransactionDb τ) (TransactionThread τ)) : Prop where
  called : ∀ i call, (config.threads i).call = some call → calls i = call
  issued : ∀ row ∈ config.shared.transactions, ∃ i issue now,
    config.threads i = .begun issue now ∧ row = issue.row now
  taken : ∀ j state now transaction, (config.threads j).taken = some (state, now, transaction) →
    (∃ i issue begunAt, config.threads i = .begun issue begunAt ∧
      sessionHash state = sessionHash issue.state ∧
      transaction = (issue.row begunAt).transaction state ∧ now < begunAt + issue.ttlSeconds) ∧
    Vacant config.shared (sessionHash state)
  once : ∀ j k state now transaction state' now' transaction',
    (config.threads j).taken = some (state, now, transaction) →
    (config.threads k).taken = some (state', now', transaction') →
    sessionHash state = sessionHash state' → j = k

variable {config : Config ι (TransactionDb τ) (TransactionThread τ)}

theorem consistent_start (clock : τ) (calls : ι → TransactionCall τ) :
    Consistent calls (transactionsStart clock calls) where
  called i call running := by
    change (calls i).thread.call = some call at running
    cases begins : calls i <;> rw [begins] at running <;> exact Option.some.inj running
  issued _ member := absurd member List.not_mem_nil
  taken j state now transaction returned := by
    change (calls j).thread.taken = _ at returned
    cases begins : calls j <;> rw [begins] at returned <;> cases returned
  once j _ state now transaction _ _ _ returned := by
    change (calls j).thread.taken = _ at returned
    cases begins : calls j <;> rw [begins] at returned <;> cases returned

/-- Where a state has been issued, nobody inserts it again. -/
theorem Consistent.vacant_step (consistent : Consistent calls config) (drawn : DrawsApart calls)
    (hashed : StatesApart calls) {i k : ι} {issue : AuthIssue τ} {begunAt : τ}
    (begun : config.threads i = .begun issue begunAt) {db' : TransactionDb τ}
    {thread' : TransactionThread τ}
    (step : Commits config.shared.transactions (config.threads k) db'.transactions thread')
    (vacant : Vacant config.shared (sessionHash issue.state)) :
    Vacant db' (sessionHash issue.state) := by
  have called : calls i = .begin issue := consistent.called i _ (by rw [begun]; rfl)
  have deleted : ∀ hash, db'.transactions = deleteAuth config.shared.transactions hash →
      Vacant db' (sessionHash issue.state) := by
    intro hash same row member
    rw [same] at member
    exact vacant row (List.mem_of_mem_filter member)
  cases step with
  | kept same _ _ _ =>
      intro row member
      rw [same] at member
      exact vacant row member
  | took state now row found same _ _ _ => exact deleted _ same
  | removed hash same _ _ _ => exact deleted hash same
  | began issue' now same free from_begin _ =>
      intro row member
      rw [same] at member
      rcases List.mem_append.mp member with old | new
      · exact vacant row (List.mem_of_mem_filter old)
      · rw [List.mem_singleton.mp new]
        intro clash
        obtain ⟨rows, inserting⟩ := from_begin
        have called' : calls k = .begin issue' := consistent.called k _ (by rw [inserting]; rfl)
        have states := hashed k i
        rw [called, called'] at states
        have threads : k = i := drawn k i issue' issue called' called (states clash)
        rw [threads, begun] at inserting
        cases inserting

/-- What a thread has taken out it had before, or it takes out a row now. -/
theorem Commits.taken {rows rows' : List (AuthRow τ)} {thread thread' : TransactionThread τ}
    (step : Commits rows thread rows' thread') {state : List Char} {now : τ}
    {transaction : AuthTransaction} (returned : thread'.taken = some (state, now, transaction)) :
    thread.taken = some (state, now, transaction) ∨
      ∃ row ∈ rows, row.stateHash = sessionHash state ∧ now < row.expiresAt ∧
        transaction = row.transaction state ∧ rows' = deleteAuth rows row.stateHash := by
  cases step with
  | kept _ silent _ _ =>
      rcases silent with nothing | same
      · rw [nothing] at returned
        cases returned
      · exact Or.inl (same ▸ returned)
  | began _ _ _ _ _ done =>
      rw [done] at returned
      cases returned
  | removed _ _ silent _ _ =>
      rw [silent] at returned
      cases returned
  | took state' now' row found same _ done _ =>
      rw [done] at returned
      cases returned
      have matching := List.find?_some found
      rw [Bool.and_eq_true, decide_eq_true_eq, decide_eq_true_eq] at matching
      exact Or.inr ⟨row, List.mem_of_find?_eq_some found, matching.1, matching.2, rfl, same⟩

omit [LinearOrder τ] [Add τ] in
theorem vacant_deleteAuth {db' : TransactionDb τ} {rows : List (AuthRow τ)} {hash : PyStr}
    (same : db'.transactions = deleteAuth rows hash) : Vacant db' hash := by
  intro row member
  rw [same] at member
  exact of_decide_eq_true (List.mem_filter.mp member).2

/-- A call of `begin_auth` that has ended takes no more steps. -/
theorem Commits.not_begun {rows rows' : List (AuthRow τ)} {thread thread' : TransactionThread τ}
    (step : Commits rows thread rows' thread') (issue : AuthIssue τ) (now : τ) :
    thread ≠ .begun issue now := by
  cases step with
  | kept _ _ _ unending => exact unending issue now
  | took _ _ _ _ _ _ _ unending => exact unending issue now
  | removed _ _ _ _ unending => exact unending issue now
  | began _ _ _ _ from_begin _ =>
      intro begun
      obtain ⟨rows, inserting⟩ := from_begin
      rw [inserting] at begun
      cases begun

variable [DecidableEq ι]

theorem Consistent.step (consistent : Consistent calls config) (drawn : DrawsApart calls)
    (hashed : StatesApart calls) {k : ι} {db' : TransactionDb τ} {thread' : TransactionThread τ}
    (step : Commits config.shared.transactions (config.threads k) db'.transactions thread')
    (call : thread'.call = none ∨ thread'.call = (config.threads k).call) :
    Consistent calls ⟨db', Function.update config.threads k thread'⟩ := by
  have begun_stays : ∀ {i issue begunAt}, config.threads i = .begun issue begunAt →
      Function.update config.threads k thread' i = .begun issue begunAt := by
    intro i issue begunAt begun
    have other : i ≠ k := fun same => step.not_begun issue begunAt (same ▸ begun)
    rw [Function.update_of_ne other]
    exact begun
  have others : ∀ {j}, j ≠ k → Function.update config.threads k thread' j = config.threads j :=
    fun other => Function.update_of_ne other _ _
  have old_taken : ∀ {j state now transaction},
      (config.threads j).taken = some (state, now, transaction) →
      (∃ i issue begunAt, Function.update config.threads k thread' i = .begun issue begunAt ∧
        sessionHash state = sessionHash issue.state ∧
        transaction = (issue.row begunAt).transaction state ∧ now < begunAt + issue.ttlSeconds) ∧
      Vacant db' (sessionHash state) := by
    intro j state now transaction returned
    obtain ⟨⟨i, issue, begunAt, begun, hash, equal, before⟩, vacant⟩ :=
      consistent.taken j state now transaction returned
    refine ⟨⟨i, issue, begunAt, begun_stays begun, hash, equal, before⟩, ?_⟩
    rw [hash] at vacant ⊢
    exact consistent.vacant_step drawn hashed begun step vacant
  -- what the acting thread takes out is still there before the step
  have new_taken : ∀ {row : AuthRow τ} {state : List Char}, row ∈ config.shared.transactions →
      row.stateHash = sessionHash state → ∀ {j state' now' transaction'},
      (config.threads j).taken = some (state', now', transaction') →
      sessionHash state ≠ sessionHash state' := by
    intro row state member isHash j state' now' transaction' returned same
    exact (consistent.taken j _ _ _ returned).2 row member (isHash.trans same)
  constructor
  · intro i call' running
    change (Function.update config.threads k thread' i).call = some call' at running
    by_cases same : i = k
    · subst same
      rw [Function.update_self] at running
      rcases call with nothing | kept
      · rw [nothing] at running
        cases running
      · exact consistent.called i call' (kept ▸ running)
    · rw [others same] at running
      exact consistent.called i call' running
  · intro row member
    have older : row ∈ config.shared.transactions → ∃ i issue now,
        Function.update config.threads k thread' i = .begun issue now ∧ row = issue.row now := by
      intro old
      obtain ⟨i, issue, now, begun, same⟩ := consistent.issued row old
      exact ⟨i, issue, now, begun_stays begun, same⟩
    cases step with
    | kept same _ _ _ => exact older (same ▸ member)
    | took _ _ _ _ same _ _ _ => exact older (List.mem_of_mem_filter (same ▸ member))
    | removed _ same _ _ _ => exact older (List.mem_of_mem_filter (same ▸ member))
    | began issue now same _ _ done =>
        rcases List.mem_append.mp (same ▸ member) with old | new
        · exact older (List.mem_of_mem_filter old)
        · refine ⟨k, issue, now, ?_, List.mem_singleton.mp new⟩
          rw [← done]
          exact Function.update_self _ _ _
  · intro j state now transaction returned
    change (Function.update config.threads k thread' j).taken = _ at returned
    by_cases same : j = k
    · subst same
      rw [Function.update_self] at returned
      rcases step.taken returned with before | ⟨row, member, isHash, before, equal, deleted⟩
      · exact old_taken before
      · obtain ⟨i, issue, begunAt, begun, isRow⟩ := consistent.issued row member
        refine ⟨⟨i, issue, begunAt, begun_stays begun, ?_, ?_, ?_⟩, ?_⟩
        · rw [← isHash, isRow]
          rfl
        · rw [equal, isRow]
        · rw [isRow] at before
          exact before
        · rw [← isHash]
          exact vacant_deleteAuth deleted
    · rw [others same] at returned
      exact old_taken returned
  · intro i j state now transaction state' now' transaction' first second hashes
    change (Function.update config.threads k thread' i).taken = _ at first
    change (Function.update config.threads k thread' j).taken = _ at second
    have before : ∀ {i state now transaction},
        (Function.update config.threads k thread' i).taken = some (state, now, transaction) →
        (config.threads i).taken = some (state, now, transaction) ∨
          (i = k ∧ ∃ row ∈ config.shared.transactions, row.stateHash = sessionHash state) := by
      intro i state now transaction returned
      by_cases same : i = k
      · subst same
        rw [Function.update_self] at returned
        rcases step.taken returned with earlier | ⟨row, member, isHash, _⟩
        · exact Or.inl earlier
        · exact Or.inr ⟨rfl, row, member, isHash⟩
      · rw [others same] at returned
        exact Or.inl returned
    rcases before first with one | ⟨isFirst, row, member, isHash⟩
    · rcases before second with other | ⟨_, row, member, isHash⟩
      · exact consistent.once i j _ _ _ _ _ _ one other hashes
      · exact absurd hashes.symm (new_taken member isHash one)
    · rcases before second with other | ⟨isSecond, _⟩
      · exact absurd hashes (new_taken member isHash other)
      · rw [isFirst, isSecond]

end States

/-! ### Every order of the steps -/

section Orders

variable {τ : Type} [LinearOrder τ] [Zero τ] [Add τ] {ι : Type} [DecidableEq ι]
  {calls : ι → TransactionCall τ} {clock : τ}
  {config config' : Config ι (TransactionDb τ) (TransactionThread τ)}
  {events events' : List (Event ι (TransactionDb τ))}

theorem working_of_run (run : Run TransactionStep (transactionsStart clock calls) events config)
    (k : ι) : Working config.shared.transactions (config.threads k) := by
  refine working_throughout run ?_ k
  intro i
  change ¬(calls i).thread.writes = true
  cases calls i <;> exact Bool.false_ne_true

/-- A step of a run, seen at the committed rows. -/
theorem commits_of_run (run : Run TransactionStep (transactionsStart clock calls) events config)
    {k : ι} {db' : TransactionDb τ} {thread' : TransactionThread τ}
    (taken : TransactionStep config.shared (config.threads k) db' thread') :
    Commits config.shared.transactions (config.threads k) db'.transactions thread' :=
  taken.commits (working_of_run run k)

theorem consistent_throughout (drawn : DrawsApart calls) (hashed : StatesApart calls)
    (run : Run TransactionStep (transactionsStart clock calls) events config) :
    Consistent calls config := by
  induction run with
  | start => exact consistent_start clock calls
  | next run taken ih => exact ih.step drawn hashed (commits_of_run run taken) taken.call

/-- The thread has taken out no row of the hash. -/
def Untaken (thread : TransactionThread τ) (hash : PyStr) : Prop :=
  ∀ state now transaction, thread.taken = some (state, now, transaction) →
    sessionHash state ≠ hash

/-- Where an issued state is vacant, it stays so and nobody takes it out. -/
theorem vacant_throughout (drawn : DrawsApart calls) (hashed : StatesApart calls)
    (run : Run TransactionStep (transactionsStart clock calls) events config)
    (later : Run TransactionStep config events' config') {i : ι} {issue : AuthIssue τ} {begunAt : τ}
    (begun : config.threads i = .begun issue begunAt)
    (vacant : Vacant config.shared (sessionHash issue.state)) :
    config'.threads i = .begun issue begunAt ∧
      Vacant config'.shared (sessionHash issue.state) ∧
      ∀ j, Untaken (config.threads j) (sessionHash issue.state) →
        Untaken (config'.threads j) (sessionHash issue.state) := by
  induction later with
  | start => exact ⟨begun, vacant, fun _ untaken => untaken⟩
  | @next events' reached later k shared thread taken ih =>
      obtain ⟨still, free, kept⟩ := ih
      have sofar := run.append later
      have step := commits_of_run sofar taken
      have other : i ≠ k := fun same => step.not_begun issue begunAt (same ▸ still)
      refine ⟨?_, (consistent_throughout drawn hashed sofar).vacant_step drawn hashed still step free,
        ?_⟩
      · exact (Function.update_of_ne other _ _).trans still
      · intro j untaken state now transaction returned
        change (Function.update reached.threads k thread j).taken = _ at returned
        by_cases same : j = k
        · subst same
          rw [Function.update_self] at returned
          rcases step.taken returned with before | ⟨row, member, isHash, _⟩
          · exact kept j untaken _ _ _ before
          · exact fun hash => free row member (isHash.trans hash)
        · rw [Function.update_of_ne same] at returned
          exact kept j untaken _ _ _ returned

omit [LinearOrder τ] [Zero τ] [Add τ] in
theorem AuthIssue.state_ne_nil (issue : AuthIssue τ) : issue.state ≠ [] := by
  refine b64url_ne_nil (fun nothing => ?_)
  have size := issue.draws.state_size
  rw [nothing] at size
  cases size

/-- A discard has not deleted, is about to commit, or has failed. -/
inductive Discarding (state : List Char) : TransactionThread τ → Prop where
  | waiting : Discarding state (.discarding state)
  | erasing (rows : List (AuthRow τ)) : Discarding state (.erasing state rows)
  | raised : Discarding state .raised

theorem Discarding.step {db db' : TransactionDb τ} {thread thread' : TransactionThread τ}
    {state : List Char} (discarding : Discarding state thread) (some_state : state ≠ [])
    (step : TransactionStep db thread db' thread') (working : Working db.transactions thread) :
    Discarding state thread' ∨ Vacant db' (sessionHash state) := by
  cases discarding with
  | waiting =>
      cases step with
      | discardRefused bad => exact absurd bad some_state
      | erase good free => exact Or.inl (.erasing _)
      | raise running => exact Or.inl .raised
  | erasing rows =>
      cases step with
      | commitDiscard => exact Or.inr (vacant_deleteAuth working)
      | raise running => exact Or.inl .raised
  | raised =>
      cases step with
      | raise running => cases running

/-- A call of `discard_auth` that begins after its state was issued leaves it vacant. -/
theorem discarded_vacant (drawn : DrawsApart calls) (hashed : StatesApart calls)
    (run : Run TransactionStep (transactionsStart clock calls) events config)
    (later : Run TransactionStep config events' config') {i d : ι} {issue : AuthIssue τ}
    {begunAt : τ} (begun : config.threads i = .begun issue begunAt)
    (discarding : config.threads d = .discarding issue.state)
    (discarded : config'.threads d = .discarded issue.state) :
    config'.threads i = .begun issue begunAt ∧
      Vacant config'.shared (sessionHash issue.state) := by
  have along : config'.threads i = .begun issue begunAt ∧
      (Discarding issue.state (config'.threads d) ∨
        Vacant config'.shared (sessionHash issue.state)) := by
    clear discarded
    induction later with
    | start => exact ⟨begun, Or.inl (discarding ▸ .waiting)⟩
    | @next events' reached later k shared thread taken ih =>
        obtain ⟨still, progress⟩ := ih
        have sofar := run.append later
        have step := commits_of_run sofar taken
        have other : i ≠ k := fun same => step.not_begun issue begunAt (same ▸ still)
        refine ⟨(Function.update_of_ne other _ _).trans still, ?_⟩
        change Discarding _ (Function.update reached.threads k thread d) ∨ Vacant shared _
        rcases progress with before | vacant
        · by_cases same : d = k
          · subst same
            rw [Function.update_self]
            exact before.step issue.state_ne_nil taken (working_of_run sofar d)
          · rw [Function.update_of_ne same]
            exact Or.inl before
        · exact Or.inr ((consistent_throughout drawn hashed sofar).vacant_step drawn hashed still
            step vacant)
  refine ⟨along.1, along.2.resolve_left (fun before => ?_)⟩
  rw [discarded] at before
  cases before

/-! ### The challenge -/

/-- The S256 challenge: the digest of the verifier's ASCII bytes in the URL-safe alphabet
without padding. -/
structure IsS256 (codeVerifier codeChallenge : List Char) : Prop where
  letters : codeChallenge.all isUrlLetter = true
  digest : ∃ bytes, encodeAscii codeVerifier = some bytes ∧
    b64urldecode codeChallenge = some (sha256Bytes bytes)

theorem encodeAscii_b64url (value : Bytes) : ∃ bytes, encodeAscii (b64url value) = some bytes := by
  unfold encodeAscii
  refine ⟨_, if_pos (List.all_eq_true.mpr (fun c member => ?_))⟩
  exact decide_eq_true (isUrlLetter_lt (List.all_eq_true.mp (b64url_isUrlLetter value) c member))

omit [LinearOrder τ] [Zero τ] [Add τ] in
theorem AuthIssue.isS256 (issue : AuthIssue τ) : IsS256 issue.codeVerifier issue.codeChallenge := by
  obtain ⟨bytes, encoded⟩ := encodeAscii_b64url issue.draws.codeVerifier
  have challenge : issue.codeChallenge = b64url (sha256Bytes bytes) := by
    unfold AuthIssue.codeChallenge pkceChallenge AuthIssue.codeVerifier
    rw [encoded]
    rfl
  rw [challenge]
  exact ⟨b64url_isUrlLetter _, bytes, encoded, b64urldecode_b64url _⟩

/-! ### Single use -/

/-- In every order of the steps: a call of `consume_auth` returns what one call of
`begin_auth` stored for the state, at a reading before it expires, with an S256 challenge;
no two calls return one for the same state; and none does after a call of `discard_auth`
for the issued state, unless it had taken the row out when that call ended. -/
theorem auth_transaction_once (drawn : DrawsApart calls) (hashed : StatesApart calls)
    (run : Run TransactionStep (transactionsStart clock calls) events config) :
    (∀ j state now transaction, config.threads j = .consumed state now transaction →
      ∃ i issue begunAt, calls i = .begin issue ∧ config.threads i = .begun issue begunAt ∧
        issue.state = state ∧ transaction = issue.transaction ∧
        now < begunAt + issue.ttlSeconds ∧
        IsS256 transaction.codeVerifier transaction.codeChallenge) ∧
    (∀ j k state now transaction now' transaction',
      config.threads j = .consumed state now transaction →
      config.threads k = .consumed state now' transaction' → j = k) ∧
    ∀ i d j issue begunAt before after first second third,
      Run TransactionStep (transactionsStart clock calls) first before →
      before.threads i = .begun issue begunAt →
      before.threads d = .discarding issue.state →
      Run TransactionStep before second after →
      after.threads d = .discarded issue.state →
      (after.threads j).taken = none →
      Run TransactionStep after third config →
      ∀ now transaction, config.threads j ≠ .consumed issue.state now transaction := by
  have consistent := consistent_throughout drawn hashed run
  refine ⟨?_, ?_, ?_⟩
  · intro j state now transaction returned
    have taken : (config.threads j).taken = some (state, now, transaction) := by
      rw [returned]
      rfl
    obtain ⟨⟨i, issue, begunAt, begun, hash, equal, before⟩, _⟩ :=
      consistent.taken j state now transaction taken
    have called : calls i = .begin issue := consistent.called i _ (by rw [begun]; rfl)
    have consuming : calls j = .consume state := consistent.called j _ (by rw [returned]; rfl)
    have states := hashed j i
    rw [called, consuming] at states
    have same : state = issue.state := states hash
    refine ⟨i, issue, begunAt, called, begun, same.symm, ?_, before, ?_⟩
    · rw [equal, same]
      rfl
    · rw [equal]
      exact issue.isS256
  · intro j k state now transaction now' transaction' first second
    refine consistent.once j k state now transaction state now' transaction' ?_ ?_ rfl
    · rw [first]
      rfl
    · rw [second]
      rfl
  · intro i d j issue begunAt before after _ _ _ first begun discarding second discarded untaken
      third now transaction returned
    obtain ⟨still, vacant⟩ :=
      discarded_vacant drawn hashed first second begun discarding discarded
    have nothing : Untaken (after.threads j) (sessionHash issue.state) := by
      intro state now transaction taken
      rw [untaken] at taken
      cases taken
    have never := (vacant_throughout drawn hashed (first.append second) third still vacant).2.2 j
      nothing
    refine never issue.state now transaction ?_ rfl
    rw [returned]
    rfl

end Orders

/-! ### One sign-in -/

def zeroDraws : AuthDraws where
  state := List.replicate 32 0
  nonce := List.replicate 32 0
  codeVerifier := List.replicate 32 0
  state_size := List.length_replicate
  nonce_size := List.length_replicate
  codeVerifier_size := List.length_replicate

def signInIssue : AuthIssue Int := ⟨zeroDraws, pyStr "/", pyStr "https://folio.example/cb", 600⟩

/-- One call of `begin_auth`, and one of `consume_auth` for its state. -/
def signInCalls : Bool → TransactionCall Int
  | false => .begin signInIssue
  | true => .consume signInIssue.state

def signInRow : AuthRow Int := signInIssue.row 0

theorem signIn_run : ∃ events config,
    Run TransactionStep (transactionsStart 0 signInCalls) events config ∧
      config.threads true = .consumed signInIssue.state 1 signInIssue.transaction := by
  have selected : selectAuth [signInRow] (sessionHash signInIssue.state) 1 = some signInRow := by
    simp [selectAuth, signInRow, AuthIssue.row, signInIssue]
  have counted : deletedAuth [signInRow] signInRow.stateHash = 1 := by
    simp [deletedAuth]
  have time : TransactionStep ⟨[], false, 0⟩ (.beginning signInIssue) ⟨[], false, 0⟩
      (.timed signInIssue 0) := .time (by decide) (le_refl _)
  have expire : TransactionStep ⟨[], false, 0⟩ (.timed signInIssue 0) ⟨[], true, 0⟩
      (.expiring signInIssue 0 []) := .expire rfl
  have insert : TransactionStep ⟨[], true, 0⟩ (.expiring signInIssue 0 []) ⟨[], true, 0⟩
      (.inserting signInIssue 0 [signInRow]) := .insert rfl
  have commit : TransactionStep ⟨[], true, 0⟩ (.inserting signInIssue 0 [signInRow])
      ⟨[signInRow], false, 0⟩ (.begun signInIssue 0) := .commitBegin
  have ask : TransactionStep ⟨[signInRow], false, 0⟩ (.consuming signInIssue.state)
      ⟨[signInRow], false, 1⟩ (.asking signInIssue.state 1) :=
    .consumeTime (by decide) (by decide)
  have immediate : TransactionStep ⟨[signInRow], false, 1⟩ (.asking signInIssue.state 1)
      ⟨[signInRow], true, 1⟩ (.selecting signInIssue.state 1) := .beginImmediate rfl
  have select : TransactionStep ⟨[signInRow], true, 1⟩ (.selecting signInIssue.state 1)
      ⟨[signInRow], true, 1⟩ (.deleting signInIssue.state 1 signInRow) := .select selected
  have delete : TransactionStep ⟨[signInRow], true, 1⟩ (.deleting signInIssue.state 1 signInRow)
      ⟨[signInRow], true, 1⟩ (.counting signInIssue.state 1 signInRow
        (deleteAuth [signInRow] signInRow.stateHash) 1) := counted ▸ .delete
  have taken : TransactionStep ⟨[signInRow], true, 1⟩ (.counting signInIssue.state 1 signInRow
        (deleteAuth [signInRow] signInRow.stateHash) 1)
      ⟨deleteAuth [signInRow] signInRow.stateHash, false, 1⟩
      (.committed signInIssue.state 1 signInRow) := .commitConsume
  have consume : TransactionStep ⟨deleteAuth [signInRow] signInRow.stateHash, false, 1⟩
      (.committed signInIssue.state 1 signInRow)
      ⟨deleteAuth [signInRow] signInRow.stateHash, false, 1⟩
      (.consumed signInIssue.state 1 signInIssue.transaction) := .consume
  have fresh : Run TransactionStep (transactionsStart 0 signInCalls) [] _ := .start
  have begun := (((fresh.next (i := false) time).next (i := false) expire).next (i := false)
    insert).next (i := false) commit
  have asked := ((begun.next (i := true) ask).next (i := true) immediate).next (i := true) select
  have done := ((asked.next (i := true) delete).next (i := true) taken).next (i := true) consume
  refine ⟨_, _, done, ?_⟩
  simp only [Function.update_self]

theorem signIn_drawsApart : DrawsApart signInCalls := by
  intro i j _ _ first second _
  cases i with
  | true =>
      change TransactionCall.consume _ = _ at first
      cases first
  | false =>
      cases j with
      | true =>
          change TransactionCall.consume _ = _ at second
          cases second
      | false => rfl

theorem auth_transaction_once_sign_in :
    ∃ config : Config Bool (TransactionDb Int) (TransactionThread Int), ∃ issue begunAt,
      config.threads true = .consumed signInIssue.state 1 signInIssue.transaction ∧
      config.threads false = .begun issue begunAt ∧ issue.state = signInIssue.state ∧
      signInIssue.transaction = issue.transaction ∧ 1 < begunAt + issue.ttlSeconds := by
  obtain ⟨events, config, run, consumed⟩ := signIn_run
  have hashed : StatesApart signInCalls := by
    intro i j _
    cases i <;> cases j <;> rfl
  obtain ⟨i, issue, begunAt, called, begun, state, transaction, before, _⟩ :=
    (auth_transaction_once signIn_drawsApart hashed run).1 true _ _ _ consumed
  cases i with
  | false => exact ⟨config, issue, begunAt, consumed, begun, state, transaction, before⟩
  | true => cases called

end FolioLattice.Auth
