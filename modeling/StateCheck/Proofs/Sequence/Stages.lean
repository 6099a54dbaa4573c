import StateCheck.Proofs.Sequence.Attempts
import StateCheck.Proofs.Tree.Stages

/-! The stages of the trees of a sequence. What lies behind the cursor is spent, what lies ahead is held, and what is
at the cursor waits; so once the last phase is over every tree that still counts is spent. -/

namespace StateCheck

theorem Rules.firstInvalidFrom_of_allows {S T : Type} {rules : Rules S T}
    (hallows : ∀ s t, rules.allows s t = .ok true) {start : Int} {position : Nat} {s : S} {ts : List T}
    {found : Option Nat} (h : rules.firstInvalidFrom start position s ts = .ok found) : found = none := by
  induction ts generalizing position s with
  | nil =>
    cases h
    rfl
  | cons t rest ih =>
    rw [firstInvalidFrom_cons, guard_of_allows (hallows s t)] at h
    obtain ⟨allowed, ⟨⟩, happly⟩ := bind_eq_ok.1 h
    rw [if_pos rfl] at happly
    obtain ⟨s', -, hrest⟩ := bind_eq_ok.1 happly
    exact ih hrest

theorem Rules.valid_of_allows {S T : Type} {rules : Rules S T} (hallows : ∀ s t, rules.allows s t = .ok true)
    {s : S} {ts : List T} {start : Int} {valid : Bool} (h : rules.isValid s ts start = .ok valid) : valid = true := by
  unfold isValid firstInvalid at h
  cases hfound : rules.firstInvalidFrom start 0 s ts with
  | error e =>
    rw [hfound] at h
    cases h
  | ok found =>
    rw [hfound, firstInvalidFrom_of_allows hallows hfound] at h
    cases h
    rfl

namespace Sequence

section entries
variable {T τ : Type} {B : Stages τ T} {entries : List (Entry τ T)} {i : Nat} {length : Int}

def Entry.Held (B : Stages τ T) (entry : Entry τ T) : Prop := B.held entry.transition entry.tree

def Entry.Spent (B : Stages τ T) (entry : Entry τ T) : Prop := B.spent entry.transition entry.tree

structure Around (B : Stages τ T) (i : Nat) (entries : List (Entry τ T)) : Prop where
  behind : ∀ (k : Nat) entry, entries[k]? = some entry → k < i → entry.Spent B
  ahead : ∀ (k : Nat) entry, entries[k]? = some entry → i < k → entry.Held B

def Past (B : Stages τ T) (length : Int) (entries : List (Entry τ T)) : Prop :=
  ∀ (k : Nat) entry, entries[k]? = some entry → (k : Int) < length → entry.Spent B

theorem around_zero (h : ∀ entry ∈ entries, entry.Held B) : Around B 0 entries :=
  ⟨fun _ _ _ hk => absurd hk (Nat.not_lt_zero _), fun _ _ hentry _ => h _ (List.mem_of_getElem? hentry)⟩

theorem Around.past (h : Around B i entries) (hi : length ≤ i) : Past B length entries :=
  fun k entry hentry hk => h.behind k entry hentry (by omega)

theorem Around.set (h : Around B i entries) (entry : Entry τ T) : Around B i (entries.set i entry) where
  behind k entry' hentry hk := by
    rw [List.getElem?_set_ne (Nat.ne_of_gt hk)] at hentry
    exact h.behind k entry' hentry hk
  ahead k entry' hentry hk := by
    rw [List.getElem?_set_ne (Nat.ne_of_lt hk)] at hentry
    exact h.ahead k entry' hentry hk

theorem Around.next (h : Around B i entries) (hspent : ∀ entry, entries[i]? = some entry → entry.Spent B) :
    Around B (i + 1) entries where
  behind k entry hentry hk := by
    rcases Nat.lt_succ_iff_lt_or_eq.1 hk with hk | rfl
    · exact h.behind k entry hentry hk
    · exact hspent entry hentry
  ahead k entry hentry hk := h.ahead k entry hentry (Nat.lt_of_succ_lt hk)

theorem Around.next_set (h : Around B i entries) {entry : Entry τ T} (hspent : entry.Spent B) :
    Around B (i + 1) (entries.set i entry) := by
  refine (h.set entry).next fun entry' hentry => ?_
  have hi : i < entries.length := by
    have := (List.getElem?_eq_some_iff.1 hentry).1
    rwa [List.length_set] at this
  rw [List.getElem?_set_self hi] at hentry
  cases hentry
  exact hspent

theorem Around.next_held (h : Around B i entries) {entry entry' : Entry τ T}
    (hentry : (entries.set i entry)[i + 1]? = some entry') : entry'.Held B := by
  rw [List.getElem?_set_ne (Nat.ne_of_lt (Nat.lt_succ_self i))] at hentry
  exact h.ahead (i + 1) entry' hentry (Nat.lt_succ_self i)

theorem Past.mono (h : Past B length entries) {length' : Int} (hle : length' ≤ length) : Past B length' entries :=
  fun k entry hentry hk => h k entry hentry (Int.lt_of_lt_of_le hk hle)

end entries

variable {S T ι τ : Type} {g : Shrinker S T ι τ} {A : Stages ι S} {B : Stages τ T} {v v' : Sequence S T ι τ} {i : Nat}

structure Sized (v : Sequence S T ι τ) : Prop where
  minSize : 0 ≤ v.minSize
  nonneg : 0 ≤ v.length
  le : v.length ≤ v.entries.length

theorem Sized.put (h : Sized v) (i : Nat) (tree : τ) (t : T) : Sized (v.put i tree t) := by
  refine ⟨h.minSize, h.nonneg, ?_⟩
  show v.length ≤ (v.entries.set i ⟨tree, t⟩).length
  rw [List.length_set]
  exact h.le

inductive Between (A : Stages ι S) (B : Stages τ T) (v : Sequence S T ι τ) : Prop
  | deleting (hcursor : v.cursor = {}) (hretry : v.retryPending = false) (hentries : ∀ entry ∈ v.entries, entry.Held B)
      (hinitial : A.held v.initialState v.initialTree)
  | transitions (i : Nat) (hcursor : v.cursor = { phase := .shrinkTransition, index := i })
      (hretry : v.retryPending = true → (i : Int) < v.length) (haround : Around B i v.entries)
      (hentry : ∀ entry, v.entries[i]? = some entry → B.waiting v.retryPending entry.transition entry.tree)
      (hinitial : A.held v.initialState v.initialTree)
  | initialState (hphase : v.cursor.phase = .shrinkInitialState) (hpast : Past B v.length v.entries)
      (hinitial : A.waiting v.retryPending v.initialState v.initialTree)
  | done (hphase : v.cursor.phase = .done) (hpast : Past B v.length v.entries)
      (hinitial : A.spent v.initialState v.initialTree)

theorem between_of_held (hcursor : v.cursor = { phase := .shrinkTransition, index := i })
    (hretry : v.retryPending = false) (haround : Around B i v.entries)
    (hentry : ∀ entry, v.entries[i]? = some entry → entry.Held B) (hinitial : A.held v.initialState v.initialTree) :
    Between A B v :=
  .transitions i hcursor (fun hpending => absurd (hretry.symm.trans hpending) Bool.false_ne_true) haround
    (fun entry hat => Stages.waiting_of_held hretry (hentry entry hat)) hinitial

inductive Reduced (g : Shrinker S T ι τ) (A : Stages ι S) (B : Stages τ T) (v : Sequence S T ι τ) : Prop
  | deleted (index length : Int) (hedit : v.lastEdit = some (.deleted index length)) (hnonneg : 0 ≤ length)
      (hle : length ≤ v.entries.length) (hcursor : v.cursor = {}) (hretry : v.retryPending = false)
      (hentries : ∀ entry ∈ v.entries, entry.Held B) (hinitial : A.held v.initialState v.initialTree)
  | transition (i : Nat) (prior : T) (entry : Entry τ T) (hedit : v.lastEdit = some (.transition i prior))
      (hcursor : v.cursor = { phase := .shrinkTransition, index := i }) (hlt : (i : Int) < v.length)
      (hretry : v.retryPending = false) (haround : Around B i v.entries) (hentry : v.entries[i]? = some entry)
      (htried : B.tried prior entry.tree) (hshown : g.transition.current entry.tree = .ok entry.transition)
      (hinitial : A.held v.initialState v.initialTree)
  | initialState (prior : S) (hedit : v.lastEdit = some (.initialState prior))
      (hphase : v.cursor.phase = .shrinkInitialState) (hretry : v.retryPending = false)
      (hpast : Past B v.length v.entries) (htried : A.tried prior v.initialTree)
      (hshown : g.initial.current v.initialTree = .ok v.initialState)

structure Ended (A : Stages ι S) (B : Stages τ T) (v : Sequence S T ι τ) : Prop where
  past : Past B v.length v.entries
  initial : A.spent v.initialState v.initialTree

def kept (v : Sequence S T ι τ) : List (Entry τ T) := before v.length v.entries

theorem current_transitions (v : Sequence S T ι τ) : v.current.transitions = v.kept.map (·.transition) := by
  show before v.length (v.entries.map (·.transition)) = (before v.length v.entries).map (·.transition)
  unfold before
  rw [List.length_map]
  split <;> rw [List.map_take]

theorem Ended.spent (h : Ended A B v) (hsized : Sized v) : ∀ entry ∈ v.kept, entry.Spent B := by
  intro entry hentry
  rw [kept, before, if_pos hsized.nonneg] at hentry
  obtain ⟨k, hk⟩ := List.mem_iff_getElem?.1 hentry
  rw [List.getElem?_take] at hk
  split at hk
  · exact h.past k entry hk (by omega)
  · cases hk

def Leads (g : Shrinker S T ι τ) (A : Stages ι S) (B : Stages τ T) (x : Act (Sequence S T ι τ) Bool)
    (v : Sequence S T ι τ) : Prop :=
  x.Yields v (fun moved v' => Sized v' ∧ if moved then Reduced g A B v' else Ended A B v') fun _ _ => True

section shrinking
variable [BEq S] (hinitial : g.initial.Staged A) (hallows : ∀ s t, g.rules.allows s t = .ok true)

include hinitial hallows in
theorem shrinkInitial_leads (hsized : Sized v) (hphase : v.cursor.phase = .shrinkInitialState)
    (hpast : Past B v.length v.entries) (hwaiting : A.waiting v.retryPending v.initialState v.initialTree) :
    Leads g A B (shrinkInitial g) v := by
  unfold Leads shrinkInitial
  rw [Act.yields_bind, yields_shrinkInitialState]
  refine (hinitial.propose hwaiting).mono (fun proposed tree h => ?_) fun _ _ h => h
  cases proposed with
  | none =>
    dsimp only
    rw [Act.yields_bind, yields_moveTo, Act.yields_pure]
    exact ⟨⟨hsized.minSize, hsized.nonneg, hsized.le⟩, hpast, h⟩
  | some s =>
    dsimp only
    rw [Act.yields_lift]
    refine ⟨fun valid hvalid => ?_, fun _ _ => trivial⟩
    obtain rfl := Rules.valid_of_allows hallows hvalid
    rw [if_pos rfl, yields_accept]
    exact ⟨⟨hsized.minSize, hsized.nonneg, hsized.le⟩,
      .initialState v.initialState rfl hphase rfl hpast h.1 h.2⟩

variable [BEq T] (htransition : g.transition.Staged B)

include hinitial htransition hallows in
theorem shrinkTransitions_leads (hsized : Sized v) (hcursor : v.cursor = { phase := .shrinkTransition, index := i })
    (hretry : v.retryPending = true → (i : Int) < v.length) (haround : Around B i v.entries)
    (hentry : ∀ entry, v.entries[i]? = some entry → B.waiting v.retryPending entry.transition entry.tree)
    (hheld : A.held v.initialState v.initialTree) (left : Nat) (hleft : (v.length - i).toNat = left) :
    Leads g A B (shrinkTransitions g left) v := by
  -- On the transitions from the cursor on: what gives up its tree falls behind the cursor as spent.
  induction left generalizing v i with
  | zero =>
    have hlength : v.length ≤ i := by omega
    have hnone : v.retryPending = false := by
      cases hpending : v.retryPending with
      | false => rfl
      | true => exact absurd (hretry hpending) (Int.not_lt.2 hlength)
    unfold Leads shrinkTransitions
    rw [Act.yields_bind, yields_moveTo]
    exact shrinkInitial_leads hinitial hallows ⟨hsized.minSize, hsized.nonneg, hsized.le⟩ rfl
      (haround.past hlength) (Stages.waiting_of_held hnone hheld)
  | succ left ih =>
    have hle := hsized.le
    have hi : i < v.entries.length := by omega
    have hat : v.entries[i]? = some v.entries[i] := List.getElem?_eq_getElem hi
    have hindex : v.cursor.index.toNat = i := by rw [hcursor, Int.toNat_natCast]
    unfold Leads shrinkTransitions
    rw [Act.yields_bind, Act.yields_get, Act.yields_bind, hindex, yields_shrinkTransition hat]
    refine (htransition.propose (hentry _ hat)).mono (fun proposed tree h => ?_) fun _ _ h => h
    cases proposed with
    | none =>
      dsimp only
      rw [Act.yields_bind, Act.yields_modify]
      have hput := hsized.put i tree v.entries[i].transition
      have hnext : Around B (i + 1) (v.entries.set i ⟨tree, v.entries[i].transition⟩) := haround.next_set h
      refine ih ⟨hput.minSize, hput.nonneg, hput.le⟩ ?_ (fun hpending => by cases hpending) hnext
        (fun entry hentry' => haround.next_held hentry') hheld ?_
      · show ({ v.cursor with index := v.cursor.index + 1 } : Cursor) = _
        rw [hcursor]
        rfl
      · show (v.length - ((i + 1 : Nat) : Int)).toNat = left
        omega
    | some t =>
      dsimp only
      rw [Act.yields_lift]
      refine ⟨fun valid hvalid => ?_, fun _ _ => trivial⟩
      obtain rfl := Rules.valid_of_allows hallows hvalid
      rw [if_pos rfl, yields_accept]
      have hput := hsized.put i tree t
      refine ⟨⟨hput.minSize, hput.nonneg, hput.le⟩, ?_⟩
      exact .transition i v.entries[i].transition ⟨tree, t⟩ rfl hcursor (show (i : Int) < v.length by omega) rfl
        (haround.set _) (List.getElem?_set_self hi) h.1 h.2 hheld

include hinitial htransition hallows in
theorem delete_leads (hsized : Sized v) (hcursor : v.cursor = {}) (hretry : v.retryPending = false)
    (hentries : ∀ entry ∈ v.entries, entry.Held B) (hheld : A.held v.initialState v.initialTree) :
    Leads g A B (delete g) v := by
  have hnext : (moveTo .shrinkTransition >>= fun _ => Act.get >>= fun v => shrinkTransitions g v.length.toNat :
      Act (Sequence S T ι τ) Bool).Yields v
      (fun moved v' => Sized v' ∧ if moved then Reduced g A B v' else Ended A B v') fun _ _ => True := by
    rw [Act.yields_bind, yields_moveTo, Act.yields_bind, Act.yields_get]
    refine shrinkTransitions_leads (v := { v with cursor := { phase := .shrinkTransition, index := 0 } }) (i := 0)
      hinitial hallows htransition ⟨hsized.minSize, hsized.nonneg, hsized.le⟩ rfl
      (fun hpending => absurd (hretry.symm.trans hpending) Bool.false_ne_true) (around_zero hentries)
      (fun entry hentry => Stages.waiting_of_held hretry (hentries entry (List.mem_of_getElem? hentry))) hheld _ ?_
    show (v.length - 0).toNat = v.length.toNat
    rw [Int.sub_zero]
  unfold Leads delete deleteLast
  rw [Act.yields_bind, Act.yields_bind, Act.yields_get, Act.yields_ite]
  refine ⟨fun _ => hnext, fun hlong => ?_⟩
  rw [Act.yields_bind, Act.yields_lift]
  refine ⟨fun valid _ => ?_, fun _ _ => trivial⟩
  rw [Act.yields_ite]
  refine ⟨fun _ => ?_, fun hkept => ?_⟩
  · rw [Act.yields_bind, Act.yields_log]
    exact hnext
  · rw [Act.yields_bind, Act.yields_set, Act.yields_bind, Act.yields_log, Act.yields_pure]
    dsimp only
    rw [yields_accept]
    have hle := hsized.le
    have hminSize := hsized.minSize
    refine ⟨⟨hminSize, ?_, ?_⟩, .deleted _ v.length rfl hsized.nonneg hle hcursor hretry hentries hheld⟩
    · show 0 ≤ min (v.length - 1) (valid : Int)
      omega
    · show min (v.length - 1) (valid : Int) ≤ v.entries.length
      omega

include hinitial htransition hallows in
theorem shrink_leads (hsized : Sized v) (hv : Between A B v) : Leads g A B (shrink g) v := by
  have hforgot : Sized { v with lastEdit := none } := ⟨hsized.minSize, hsized.nonneg, hsized.le⟩
  unfold Leads shrink
  rw [Act.yields_bind, Act.yields_modify, Act.yields_bind, Act.yields_get]
  dsimp only
  cases hv with
  | deleting hcursor hretry hentries hheld =>
    have hphase : v.cursor.phase = .deleteTransition := congrArg Cursor.phase hcursor
    rw [hphase]
    exact delete_leads hinitial hallows htransition hforgot hcursor hretry hentries hheld
  | transitions i hcursor hretry haround hentry hheld =>
    have hphase : v.cursor.phase = .shrinkTransition := congrArg Cursor.phase hcursor
    have hindex : v.cursor.index = i := congrArg Cursor.index hcursor
    rw [hphase, hindex]
    exact shrinkTransitions_leads hinitial hallows htransition hforgot hcursor hretry haround hentry hheld _ rfl
  | initialState hphase hpast hwaiting =>
    rw [hphase]
    exact shrinkInitial_leads hinitial hallows hforgot hphase hpast hwaiting
  | done hphase hpast hspent =>
    rw [hphase]
    exact ⟨hforgot, hpast, hspent⟩

end shrinking

section judging
variable [BEq S] [BEq T] (hinitial : g.initial.Staged A) (htransition : g.transition.Staged B)

include hinitial htransition in
theorem complicate_leads (hsized : Sized v) (hv : Reduced g A B v) :
    (complicate g).Yields v (fun _ v' => Sized v' ∧ Between A B v') fun _ _ => True := by
  unfold complicate
  rw [Act.yields_bind, Act.yields_get]
  cases hv with
  | deleted index length hedit hnonneg hle hcursor hretry hentries hheld =>
    rw [hedit]
    dsimp only
    unfold restore
    rw [Act.yields_bind, Act.yields_set, Act.yields_bind, Act.yields_bind, Act.yields_modify, yields_moveTo,
      Act.yields_bind, Act.yields_log, Act.yields_pure]
    exact ⟨⟨hsized.minSize, hnonneg, hle⟩, between_of_held (i := 0) rfl hretry (around_zero hentries)
      (fun entry hentry => hentries entry (List.mem_of_getElem? hentry)) hheld⟩
  | transition i prior entry hedit hcursor hlt hretry haround hentry htried hshown hheld =>
    rw [hedit]
    dsimp only
    have hentry' : ({ v with lastEdit := none } : Sequence S T ι τ).entries[i]? = some entry := hentry
    have hi : i < v.entries.length := (List.getElem?_eq_some_iff.1 hentry).1
    rw [Act.yields_bind, Act.yields_set, Act.yields_bind, yields_restore_transition hentry']
    refine (htransition.canRetry htried).mono (fun retry tree h => ?_) fun _ _ h => h
    rw [Act.yields_bind, Act.yields_log, Act.yields_pure]
    have hput := hsized.put i tree prior
    cases retry with
    | true =>
      refine ⟨⟨hput.minSize, hput.nonneg, hput.le⟩, ?_⟩
      refine .transitions i hcursor (fun _ => hlt) (haround.set _) (fun entry' hentry' => ?_) hheld
      have hset : (v.entries.set i ⟨tree, prior⟩)[i]? = some entry' := hentry'
      rw [List.getElem?_set_self hi] at hset
      cases hset
      exact h
    | false =>
      have hmoved : ({ v.cursor with index := (i : Int) + 1 } : Cursor) =
          { phase := .shrinkTransition, index := (i + 1 : Nat) } := by
        rw [hcursor]
        rfl
      exact ⟨⟨hput.minSize, hput.nonneg, hput.le⟩, between_of_held hmoved hretry (haround.next_set h)
        (fun entry' hentry' => haround.next_held hentry') hheld⟩
  | initialState prior hedit hphase hretry hpast htried hshown =>
    rw [hedit]
    dsimp only
    rw [Act.yields_bind, Act.yields_set, Act.yields_bind, yields_restore_initial]
    refine (hinitial.canRetry htried).mono (fun retry tree h => ?_) fun _ _ h => h
    rw [Act.yields_bind, Act.yields_log, Act.yields_pure]
    cases retry with
    | true => exact ⟨⟨hsized.minSize, hsized.nonneg, hsized.le⟩, .initialState hphase hpast h⟩
    | false => exact ⟨⟨hsized.minSize, hsized.nonneg, hsized.le⟩, .done rfl hpast h⟩

include hinitial htransition in
theorem Reduced.between (hv : Reduced g A B v) : Between A B v := by
  cases hv with
  | deleted index length hedit hnonneg hle hcursor hretry hentries hheld =>
    exact .deleting hcursor hretry hentries hheld
  | transition i prior entry hedit hcursor hlt hretry haround hentry htried hshown hheld =>
    refine between_of_held hcursor hretry haround (fun entry' hentry' => ?_) hheld
    obtain rfl := Option.some.inj (hentry.symm.trans hentry')
    exact htransition.keep prior _ _ htried hshown
  | initialState prior hedit hphase hretry hpast htried hshown =>
    exact .initialState hphase hpast (Stages.waiting_of_held hretry (hinitial.keep prior _ _ htried hshown))

end judging

theorem Sized.cut (h : Sized v) (length : Int) : Sized (v.cut length) := by
  have hminSize := h.minSize
  have hnonneg := h.nonneg
  have hle := h.le
  unfold Sequence.cut
  split
  · exact h
  · refine ⟨hminSize, ?_, ?_⟩
    · show 0 ≤ max length v.minSize
      omega
    · show max length v.minSize ≤ v.entries.length
      omega

theorem Between.cut (h : Between A B v) (hretry : v.retryPending = false) (length : Int) :
    Between A B (v.cut length) := by
  unfold Sequence.cut
  split
  · exact h
  · have hle : max length v.minSize ≤ v.length := by omega
    cases h with
    | deleting hcursor _ hentries hheld => exact .deleting hcursor hretry hentries hheld
    | transitions i hcursor _ haround hentry hheld =>
      exact .transitions i hcursor (fun hpending => absurd (hretry.symm.trans hpending) Bool.false_ne_true) haround
        hentry hheld
    | initialState hphase hpast hwaiting => exact .initialState hphase (hpast.mono hle) hwaiting
    | done hphase hpast hspent => exact .done hphase (hpast.mono hle) hspent

theorem Reduced.settled (h : Reduced g A B v) : v.retryPending = false := by
  cases h with
  | deleted _ _ _ _ _ _ hretry => exact hretry
  | transition _ _ _ _ _ _ hretry => exact hretry
  | initialState _ _ _ hretry => exact hretry

theorem between_start {initialTree : ι} {s : S} {entries : List (Entry τ T)} (minSize : Int)
    (hinitial : A.held s initialTree) (hentries : ∀ entry ∈ entries, entry.Held B) :
    Between A B (start initialTree s entries minSize) :=
  .deleting rfl rfl hentries hinitial

end Sequence
end StateCheck
