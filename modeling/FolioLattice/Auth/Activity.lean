/-
Resolves of sessions that overlap, under a clock that does not go back: when the activity
they write never moves backwards, and what it does when it may.
-/

import FolioLattice.Auth.SessionRuns
import FolioLattice.Concurrency.Transition
import Mathlib.Algebra.Order.Monoid.Unbundled.Defs

namespace FolioLattice.Auth

open FolioLattice.Text FolioLattice.Data FolioLattice.Concurrency

variable {τ : Type} {ι : Type}

/-- The tables and the last reading of the clock, with the calls. -/
abbrev Resolves (ι τ : Type) := Config ι (AuthDb τ × τ) (AuthThread τ)

/-- Sessions as they were stored before, and calls of `resolve` at their beginning. -/
def resolvesStart (db : AuthDb τ) (clock : τ) (ids : ι → List Char) : Resolves ι τ where
  shared := (db, clock)
  threads i := .resolving (ids i)

section Clocked

variable [DecidableEq ι] [LinearOrder τ] [Zero τ] [Add τ]

/-- A step of one call; a reading of the clock is not smaller than the one before. -/
inductive ClockedStep (F : Type) [FloatFormat F] (settings : SessionSettings τ) :
    Transition (Resolves ι τ) ι where
  | reading {config : Resolves ι τ} {i : ι} {sessionId : List Char} {now : τ}
      (resolving : config.threads i = .resolving sessionId) (onward : config.shared.2 ≤ now)
      (taken : SessionStep F settings config.shared.1 (.resolving sessionId) config.shared.1
        (.selecting sessionId now)) :
      ClockedStep F settings config i ⟨(config.shared.1, now),
        Function.update config.threads i (.selecting sessionId now)⟩
  | other {config : Resolves ι τ} {i : ι} {db : AuthDb τ} {thread : AuthThread τ}
      (taken : SessionStep F settings config.shared.1 (config.threads i) db thread)
      (unread : ∀ sessionId now, thread ≠ .selecting sessionId now) :
      ClockedStep F settings config i ⟨(db, config.shared.2),
        Function.update config.threads i thread⟩

/-- A resolve that writes its reading has not been overtaken: no resolve of the session that
read the clock later has returned. -/
def InReadingOrder (config : Resolves ι τ) (i : ι) (config' : Resolves ι τ) : Prop :=
  ∀ sessionId now row membership record,
    config.threads i = .deciding sessionId now row membership →
    config'.threads i = .resolved sessionId (some record) →
    ∀ j sessionId' record', config.threads j = .resolved sessionId' (some record') →
      sessionHash sessionId' = sessionHash sessionId → record'.lastSeenAt ≤ now

/-- `last_seen_at` never decreases, and while the reading of a resolve that returned the
session is less than `idle_ttl` ago, the session is not refused as idle. -/
structure KeepsActive (settings : SessionSettings τ) (step : Transition (Resolves ι τ) ι)
    (start : Resolves ι τ) : Prop where
  onward : ∀ past mid later config, Trace step start past mid → Trace step mid later config →
    ∀ hash row row', selectSession mid.shared.1.sessions hash = some row →
      selectSession config.shared.1.sessions hash = some row' → row.lastSeenAt ≤ row'.lastSeenAt
  awake : ∀ past config, Trace step start past config →
    ∀ j k sessionId record now row, config.threads j = .resolved sessionId (some record) →
      config.threads k = .selecting sessionId now →
      selectSession config.shared.1.sessions (sessionHash sessionId) = some row →
      row.revokedAt = none → now < row.expiresAt → now < record.lastSeenAt + settings.idleTtl →
      row.ended settings now = false

end Clocked

/-! ### Rows that move onward -/

section Rows

variable [LinearOrder τ]

/-- Every row is still there and was seen no earlier than before. -/
def Onward (sessions sessions' : List (SessionRow τ)) : Prop :=
  ∀ row ∈ sessions, ∃ row' ∈ sessions', row'.sessionHash = row.sessionHash ∧
    row.lastSeenAt ≤ row'.lastSeenAt

theorem Onward.refl (sessions : List (SessionRow τ)) : Onward sessions sessions :=
  fun row member => ⟨row, member, rfl, le_refl _⟩

theorem Onward.trans {first second third : List (SessionRow τ)} (one : Onward first second)
    (two : Onward second third) : Onward first third := by
  intro row member
  obtain ⟨row', inside, same, seen⟩ := one row member
  obtain ⟨row'', inside', same', seen'⟩ := two row' inside
  exact ⟨row'', inside', same'.trans same, le_trans seen seen'⟩

theorem onward_updateSession {sessions : List (SessionRow τ)} {hash : PyStr}
    {change : SessionRow τ → SessionRow τ} (columns : ∀ row, (change row).sessionHash = row.sessionHash)
    (seen : ∀ row ∈ sessions, row.sessionHash = hash → row.lastSeenAt ≤ (change row).lastSeenAt) :
    Onward sessions (updateSession sessions hash change) := by
  intro row member
  refine ⟨_, List.mem_map_of_mem member, ?_⟩
  by_cases target : row.sessionHash = hash
  · rw [if_pos target]
    exact ⟨columns row, seen row member target⟩
  · rw [if_neg target]
    exact ⟨rfl, le_refl _⟩

omit [LinearOrder τ] in
theorem updateSession_hashes {sessions : List (SessionRow τ)} {hash : PyStr}
    {change : SessionRow τ → SessionRow τ}
    (columns : ∀ row, (change row).sessionHash = row.sessionHash) :
    (updateSession sessions hash change).map (·.sessionHash) = sessions.map (·.sessionHash) := by
  unfold updateSession
  rw [List.map_map]
  refine List.map_congr_left (fun row _ => ?_)
  by_cases target : row.sessionHash = hash
  · rw [Function.comp_apply, if_pos target, columns]
  · rw [Function.comp_apply, if_neg target]

omit [LinearOrder τ] in
theorem row_unique {sessions : List (SessionRow τ)} (distinct : (sessions.map (·.sessionHash)).Nodup)
    {row row' : SessionRow τ} (member : row ∈ sessions) (member' : row' ∈ sessions)
    (same : row.sessionHash = row'.sessionHash) : row = row' :=
  List.inj_on_of_nodup_map distinct member member' same

end Rows

/-! ### What every state keeps -/

section Watched

variable [LinearOrder τ]

/-- The session that a resolve has read is stored. -/
def Stored (sessions : List (SessionRow τ)) (hash : PyStr) : Prop :=
  ∃ row ∈ sessions, row.sessionHash = hash

/-- Readings are not earlier than the first one, and what was returned has been written. -/
def Watching (clock : τ) (sessions : List (SessionRow τ)) : AuthThread τ → Prop
  | .resolving _ => True
  | .selecting _ now => clock ≤ now
  | .looking sessionId now row => clock ≤ now ∧ row.sessionHash = sessionHash sessionId ∧
      Stored sessions row.sessionHash
  | .deciding sessionId now row _ => clock ≤ now ∧ row.sessionHash = sessionHash sessionId ∧
      Stored sessions row.sessionHash
  | .resolved sessionId (some record) => ∃ row ∈ sessions,
      row.sessionHash = sessionHash sessionId ∧ record.lastSeenAt ≤ row.lastSeenAt
  | .resolved _ none => True
  | .raised => True
  | _ => False

theorem Stored.onward {sessions sessions' : List (SessionRow τ)} {hash : PyStr}
    (stored : Stored sessions hash) (onward : Onward sessions sessions') :
    Stored sessions' hash := by
  obtain ⟨row, member, same⟩ := stored
  obtain ⟨row', inside, same', _⟩ := onward row member
  exact ⟨row', inside, same'.trans same⟩

theorem Watching.onward {clock : τ} {sessions sessions' : List (SessionRow τ)}
    {thread : AuthThread τ} (watching : Watching clock sessions thread)
    (onward : Onward sessions sessions') : Watching clock sessions' thread := by
  cases thread with
  | looking sessionId now row => exact ⟨watching.1, watching.2.1, watching.2.2.onward onward⟩
  | deciding sessionId now row membership =>
      exact ⟨watching.1, watching.2.1, watching.2.2.onward onward⟩
  | resolved sessionId result =>
      cases result with
      | none => trivial
      | some record =>
          obtain ⟨row, member, same, seen⟩ := watching
          obtain ⟨row', inside, same', seen'⟩ := onward row member
          exact ⟨row', inside, same'.trans same, le_trans seen seen'⟩
  | _ => exact watching

/-- A row shows a reading of before, or the one that some resolve returned. -/
def Origin (clock : τ) (threads : ι → AuthThread τ) (row : SessionRow τ) : Prop :=
  row.lastSeenAt ≤ clock ∨ ∃ j sessionId record,
    threads j = .resolved sessionId (some record) ∧ sessionHash sessionId = row.sessionHash ∧
      record.lastSeenAt = row.lastSeenAt

structure Watched (clock : τ) (config : Resolves ι τ) : Prop where
  distinct : (config.shared.1.sessions.map (·.sessionHash)).Nodup
  started : clock ≤ config.shared.2
  rows : ∀ row ∈ config.shared.1.sessions, Origin clock config.threads row
  threads : ∀ i, Watching clock config.shared.1.sessions (config.threads i)

theorem watched_start {db : AuthDb τ} {clock : τ}
    (distinct : (db.sessions.map (·.sessionHash)).Nodup)
    (seen : ∀ row ∈ db.sessions, row.lastSeenAt ≤ clock) (ids : ι → List Char) :
    Watched clock (resolvesStart db clock ids) where
  distinct := distinct
  started := le_refl _
  rows row member := Or.inl (seen row member)
  threads _ := trivial

/-- What a resolve that is not overtaken writes is no earlier than what is there. -/
theorem Watched.not_later {clock : τ} {config config' : Resolves ι τ} {i : ι}
    (watched : Watched clock config) {sessionId : List Char} {now : τ} {row : SessionRow τ}
    {membership : Option Membership} {record : SessionRecord τ}
    (deciding : config.threads i = .deciding sessionId now row membership)
    (returned : config'.threads i = .resolved sessionId (some record))
    (order : InReadingOrder config i config') {known : SessionRow τ}
    (member : known ∈ config.shared.1.sessions) (same : known.sessionHash = row.sessionHash) :
    known.lastSeenAt ≤ now := by
  have watching := watched.threads i
  rw [deciding] at watching
  rcases watched.rows known member with before | ⟨j, id, record', resolved, hash, reading⟩
  · exact le_trans before watching.1
  · rw [← reading]
    exact order sessionId now row membership record deciding returned j id record' resolved
      (hash.trans (same.trans watching.2.1))

theorem Origin.same {clock : τ} {threads : ι → AuthThread τ} {row row' : SessionRow τ}
    (origin : Origin clock threads row) (hash : row'.sessionHash = row.sessionHash)
    (seen : row'.lastSeenAt = row.lastSeenAt) : Origin clock threads row' := by
  unfold Origin at origin ⊢
  rw [hash, seen]
  exact origin

variable [DecidableEq ι]

theorem Origin.update {clock : τ} {threads : ι → AuthThread τ} {row : SessionRow τ} {i : ι}
    (origin : Origin clock threads row) {thread : AuthThread τ}
    (unreturned : ∀ sessionId record, threads i ≠ .resolved sessionId (some record)) :
    Origin clock (Function.update threads i thread) row := by
  rcases origin with before | ⟨j, sessionId, record, resolved, hash, reading⟩
  · exact Or.inl before
  · have other : j ≠ i := fun same => unreturned sessionId record (same ▸ resolved)
    exact Or.inr ⟨j, sessionId, record, (Function.update_of_ne other _ _).trans resolved, hash,
      reading⟩

theorem Watched.update {clock clock' : τ} {config : Resolves ι τ} (watched : Watched clock config)
    {i : ι} {db : AuthDb τ} {thread : AuthThread τ}
    (onward : Onward config.shared.1.sessions db.sessions)
    (hashes : db.sessions.map (·.sessionHash) = config.shared.1.sessions.map (·.sessionHash))
    (later : config.shared.2 ≤ clock')
    (origins : ∀ row ∈ db.sessions, Origin clock (Function.update config.threads i thread) row)
    (watching : Watching clock db.sessions thread) :
    Watched clock ⟨(db, clock'), Function.update config.threads i thread⟩ where
  distinct := hashes ▸ watched.distinct
  started := le_trans watched.started later
  rows := origins
  threads j := by
    change Watching clock db.sessions (Function.update config.threads i thread j)
    by_cases same : j = i
    · rw [same, Function.update_self]
      exact watching
    · rw [Function.update_of_ne same]
      exact (watched.threads j).onward onward

/-- A step that writes nothing. -/
theorem Watched.quiet {clock clock' : τ} {config : Resolves ι τ} (watched : Watched clock config)
    {i : ι} {thread : AuthThread τ} (later : config.shared.2 ≤ clock')
    (unreturned : ∀ sessionId record, config.threads i ≠ .resolved sessionId (some record))
    (watching : Watching clock config.shared.1.sessions thread) :
    Watched clock ⟨(config.shared.1, clock'), Function.update config.threads i thread⟩ :=
  watched.update (.refl _) rfl later
    (fun row member => (watched.rows row member).update unreturned) watching

variable [Zero τ] [Add τ] {F : Type} [FloatFormat F] {settings : SessionSettings τ}

theorem Watched.step {clock : τ} {config config' : Resolves ι τ} {i : ι}
    (watched : Watched clock config) (step : ClockedStep F settings config i config')
    (order : InReadingOrder config i config') :
    Onward config.shared.1.sessions config'.shared.1.sessions ∧ Watched clock config' := by
  cases step with
  | reading resolving onward taken =>
      refine ⟨.refl _, watched.quiet onward ?_ (le_trans watched.started onward)⟩
      intro id record impossible
      rw [resolving] at impossible
      cases impossible
  | other taken unread =>
      have watching := watched.threads i
      have running := taken.running
      have unreturned : ∀ id record, config.threads i ≠ .resolved id (some record) := by
        intro id record returned
        rw [returned] at running
        cases running
      have quiet : ∀ {thread : AuthThread τ},
          Watching clock config.shared.1.sessions thread →
          Onward config.shared.1.sessions config.shared.1.sessions ∧
            Watched clock ⟨(config.shared.1, config.shared.2),
              Function.update config.threads i thread⟩ :=
        fun watching => ⟨.refl _, watched.quiet (le_refl _) unreturned watching⟩
      generalize here : config.threads i = before at taken watching
      cases taken with
      | resolveRefused bad => exact quiet trivial
      | resolveClock now good => exact absurd rfl (unread _ now)
      | selectMissing missing => exact quiet trivial
      | selectOver found ended => exact quiet trivial
      | @select _ _ _ row found lasting =>
          obtain ⟨member, isHash⟩ := selectSession_some found
          exact quiet ⟨watching, isHash, row, member, rfl⟩
      | look found => exact quiet watching
      | lookFailed failed => exact quiet watching
      | raise _ => exact quiet trivial
      | @lapse _ sessionId now row membership differs =>
          have columns : ∀ row : SessionRow τ,
              ({ row with revokedAt := some now } : SessionRow τ).sessionHash = row.sessionHash :=
            fun _ => rfl
          have onward : Onward config.shared.1.sessions
              (lapseSession config.shared.1.sessions row.sessionHash now) :=
            onward_updateSession columns (fun known _ _ => le_refl known.lastSeenAt)
          refine ⟨onward, watched.update onward (updateSession_hashes columns) (le_refl _) ?_ trivial⟩
          intro row' member
          obtain ⟨old, inside, ⟨_, isNew⟩ | ⟨_, isOld⟩⟩ := mem_updateSession member
          · rw [isNew]
            exact ((watched.rows old inside).update unreturned).same rfl rfl
          · rw [isOld]
            exact (watched.rows old inside).update unreturned
      | @seen _ sessionId now row membership same =>
          have columns : ∀ row : SessionRow τ,
              ({ row with lastSeenAt := now } : SessionRow τ).sessionHash = row.sessionHash :=
            fun _ => rfl
          have onward : Onward config.shared.1.sessions
              (seeSession config.shared.1.sessions row.sessionHash now) :=
            onward_updateSession columns (fun known member target =>
              watched.not_later here (Function.update_self _ _ _) order member target)
          obtain ⟨_, isHash, known, member, isRow⟩ := watching
          refine ⟨onward, watched.update onward (updateSession_hashes columns) (le_refl _) ?_ ?_⟩
          · intro row' inside
            obtain ⟨old, oldMember, ⟨target, isNew⟩ | ⟨_, isOld⟩⟩ := mem_updateSession inside
            · rw [isNew]
              exact Or.inr ⟨i, sessionId, row.record sessionId now membership,
                Function.update_self _ _ _, isHash.symm.trans target.symm, rfl⟩
            · rw [isOld]
              exact (watched.rows old oldMember).update unreturned
          · refine ⟨_, List.mem_map_of_mem member, ?_⟩
            rw [if_pos isRow]
            exact ⟨isRow.trans isHash, le_refl _⟩
      | _ => exact watching.elim

/-! ### Whole runs -/

variable {start config : Resolves ι τ} {past : List (Resolves ι τ × ι)} {clock : τ}

theorem Watched.trace (watched : Watched clock start)
    (trace : Trace (fun s e s' => ClockedStep F settings s e s' ∧ InReadingOrder s e s')
      start past config) :
    Onward start.shared.1.sessions config.shared.1.sessions ∧ Watched clock config := by
  have kept : ∀ (s : Resolves ι τ) (e : ι) s', Watched clock s →
      ClockedStep F settings s e s' ∧ InReadingOrder s e s' → Watched clock s' :=
    fun _ _ _ watched step => (watched.step step.1 step.2).2
  have moved : ∀ (s : Resolves ι τ) (e : ι) s', Watched clock s →
      ClockedStep F settings s e s' ∧ InReadingOrder s e s' →
        Onward s.shared.1.sessions s'.shared.1.sessions :=
    fun _ _ _ watched step => (watched.step step.1 step.2).1
  exact ⟨trace.preorder (fun _ => .refl _) (fun _ _ _ => .trans) kept moved watched,
    trace.invariant kept watched⟩

/-- If no resolve is overtaken by one that read the clock later, the activity of sessions
never moves backwards. -/
theorem activity_in_reading_order [AddRightMono τ] (settings : SessionSettings τ) {db : AuthDb τ}
    {clock : τ} (distinct : (db.sessions.map (·.sessionHash)).Nodup)
    (seen : ∀ row ∈ db.sessions, row.lastSeenAt ≤ clock) (ids : ι → List Char) :
    KeepsActive settings
      (fun config i config' => ClockedStep F settings config i config' ∧
        InReadingOrder config i config')
      (resolvesStart db clock ids) where
  onward past mid later config first second hash row row' found found' := by
    have middle := ((watched_start distinct seen ids).trace first).2
    obtain ⟨onward, watched⟩ := middle.trace second
    obtain ⟨member, isHash⟩ := selectSession_some found
    obtain ⟨member', isHash'⟩ := selectSession_some found'
    obtain ⟨moved, inside, same, notBefore⟩ := onward row member
    rw [row_unique watched.distinct member' inside (isHash'.trans (isHash.symm.trans same.symm))]
    exact notBefore
  awake past config trace j k sessionId record now row resolved selecting found unrevoked lasting
      recent := by
    have watched := ((watched_start distinct seen ids).trace trace).2
    have watching := watched.threads j
    rw [resolved] at watching
    obtain ⟨written, inside, same, notBefore⟩ := watching
    obtain ⟨member, isHash⟩ := selectSession_some found
    rw [← row_unique watched.distinct member inside (isHash.trans same.symm)] at notBefore
    have awake : now < row.lastSeenAt + settings.idleTtl :=
      lt_of_lt_of_le recent (add_le_add_left notBefore _)
    unfold SessionRow.ended
    rw [unrevoked, decide_eq_false (not_le_of_gt lasting), decide_eq_false (not_le_of_gt awake)]
    rfl

end Watched

/-! ### Two resolves that overlap -/

def twoResolves : Bool → List Char := fun _ => zeroSession

def aliceDb : AuthDb ℕ := ⟨[aliceSession], [aliceRow]⟩

theorem aliceDb_seen : ∀ row ∈ aliceDb.sessions, row.lastSeenAt ≤ 0 := by
  intro row member
  rw [List.mem_singleton.mp member]
  exact le_refl _

theorem activity_in_reading_order_alice :
    KeepsActive daySettings
      (fun config i config' => ClockedStep Empty daySettings config i config' ∧
        InReadingOrder config i config')
      (resolvesStart aliceDb 0 twoResolves) := by
  have distinct : (aliceDb.sessions.map (·.sessionHash)).Nodup := List.nodup_singleton _
  exact activity_in_reading_order daySettings distinct aliceDb_seen twoResolves

theorem aliceDb_read (now : ℕ) (lasting : aliceSession.ended daySettings now = false) :
    SessionStep Empty daySettings aliceDb (.selecting zeroSession now) aliceDb
        (.looking zeroSession now aliceSession) ∧
      SessionStep Empty daySettings aliceDb (.looking zeroSession now aliceSession) aliceDb
        (.deciding zeroSession now aliceSession (some alice)) :=
  ⟨.select aliceSession_selected lasting, .look aliceRow_lookup⟩

/-- Both calls have read the clock and the row, the first call at 1 and the second at 2. -/
theorem twoResolves_overlap : ∃ past config,
    Trace (ClockedStep Empty daySettings) (resolvesStart aliceDb 0 twoResolves) past config ∧
      config.shared = (aliceDb, 2) ∧
      config.threads false = .deciding zeroSession 1 aliceSession (some alice) ∧
      config.threads true = .deciding zeroSession 2 aliceSession (some alice) := by
  obtain ⟨selectFirst, lookFirst⟩ := aliceDb_read 1 (by decide)
  obtain ⟨selectSecond, lookSecond⟩ := aliceDb_read 2 (by decide)
  have unread : ∀ {thread : AuthThread ℕ}, (∃ id now row, thread = .looking id now row) ∨
      (∃ id now row m, thread = .deciding id now row m) →
        ∀ id now, thread ≠ .selecting id now := by
    rintro _ (⟨_, _, _, rfl⟩ | ⟨_, _, _, _, rfl⟩) _ _ impossible <;> cases impossible
  have begun : Trace (ClockedStep Empty daySettings) (resolvesStart aliceDb 0 twoResolves) [] _ :=
    .start
  have first := begun.next (.reading (i := false) rfl (by decide)
    (.resolveClock 1 zeroSession_good))
  have second := first.next (.reading (i := true) rfl (by decide)
    (.resolveClock 2 zeroSession_good))
  have selected := (second.next (.other (i := false) selectFirst
    (unread (Or.inl ⟨_, _, _, rfl⟩)))).next (.other (i := true) selectSecond
      (unread (Or.inl ⟨_, _, _, rfl⟩)))
  have looked := (selected.next (.other (i := false) lookFirst
    (unread (Or.inr ⟨_, _, _, _, rfl⟩)))).next (.other (i := true) lookSecond
      (unread (Or.inr ⟨_, _, _, _, rfl⟩)))
  exact ⟨_, _, looked, rfl, rfl, rfl⟩

theorem seeSession_single (row : SessionRow ℕ) (now : ℕ) :
    seeSession [row] row.sessionHash now = [{ row with lastSeenAt := now }] := by
  unfold seeSession updateSession
  rw [List.map_cons, if_pos rfl, List.map_nil]

theorem selectSession_single (row : SessionRow ℕ) :
    selectSession [row] row.sessionHash = some row :=
  List.find?_cons_of_pos (decide_eq_true rfl)

/-- The second call writes 2, and then the first one 1. -/
theorem activity_goes_backwards :
    ¬KeepsActive daySettings (ClockedStep Empty daySettings)
      (resolvesStart aliceDb 0 twoResolves) := by
  intro keeps
  obtain ⟨past, ⟨shared, threads⟩, trace, same, first, second⟩ := twoResolves_overlap
  dsimp only at same first second
  subst same
  have unread : ∀ {id : List Char} {record : SessionRecord ℕ} (id' : List Char) (now : ℕ),
      AuthThread.resolved id (some record) ≠ .selecting id' now := by
    intro _ _ _ _ impossible
    cases impossible
  have sees : ∀ (now : ℕ) (db : AuthDb ℕ),
      SessionStep Empty daySettings db (.deciding zeroSession now aliceSession (some alice))
        { db with sessions := seeSession db.sessions aliceSession.sessionHash now }
        (.resolved zeroSession (some (aliceSession.record zeroSession now alice))) :=
    fun _ _ => .seen aliceSession_fits
  have middle := trace.next (.other (i := true) (second ▸ sees 2 aliceDb) unread)
  have waiting : Function.update threads true
      (.resolved zeroSession (some (aliceSession.record zeroSession 2 alice))) false =
        .deciding zeroSession 1 aliceSession (some alice) :=
    (Function.update_of_ne (by decide) _ _).trans first
  have later : Trace (ClockedStep Empty daySettings)
      ⟨({ aliceDb with sessions := seeSession [aliceSession] aliceSession.sessionHash 2 }, 2),
        Function.update threads true
          (.resolved zeroSession (some (aliceSession.record zeroSession 2 alice)))⟩ [] _ := .start
  have last := later.next (.other (i := false) (waiting.symm ▸ sees 1 _) unread)
  have one_row : ∀ now, seeSession [aliceSession] aliceSession.sessionHash now =
      [{ aliceSession with lastSeenAt := now }] := seeSession_single aliceSession
  have overwritten : seeSession [{ aliceSession with lastSeenAt := 2 }] aliceSession.sessionHash 1 =
      [{ aliceSession with lastSeenAt := 1 }] :=
    seeSession_single { aliceSession with lastSeenAt := 2 } 1
  have backwards := keeps.onward _ _ _ _ middle last aliceSession.sessionHash
    { aliceSession with lastSeenAt := 2 } { aliceSession with lastSeenAt := 1 }
    (by
      change selectSession (seeSession [aliceSession] _ 2) _ = _
      rw [one_row]
      exact selectSession_single _)
    (by
      change selectSession (seeSession (seeSession [aliceSession] _ 2) _ 1) _ = _
      rw [one_row, overwritten]
      exact selectSession_single _)
  exact absurd backwards (by decide)

end FolioLattice.Auth
