import StateCheck.Proofs.Plain
import StateCheck.Proofs.Tree.Keeps

/-! The support of a strategy, one combinator at a time. Drawn trees never leave it, whatever the order of the
moves. -/

namespace StateCheck

theorem mem_ofFn_pi {α : Type} {n : Nat} {D : Fin n → Set α} {as : List α} (hlength : as.length = n)
    (has : ∀ (i : Fin n) a, as[(i : Nat)]? = some a → a ∈ D i) : as ∈ List.ofFn '' Set.univ.pi D := by
  subst hlength
  exact ⟨as.get, fun i _ => has i _ (List.getElem?_eq_getElem i.isLt), List.ofFn_get as⟩

namespace Strategy
variable {α : Type} {E : Fault → Prop}

/-- The values that a strategy stands for. Functions and filters are asked about those alone, and alternatives drawn
on demand raise faults of the kind `E` only. -/
inductive Supports (E : Fault → Prop) : {α : Type} → Strategy α → Set α → Prop
  | just {α : Type} (a : α) (shown : String) : Supports E (just a shown) {a}
  | integers {lo hi : Int} (hle : lo ≤ hi) : Supports E (integers lo hi) {n | lo ≤ n ∧ n ≤ hi}
  | map {α β : Type} {s : Strategy α} {D : Set α} {f : α → Except Fault β} (hs : Supports E s D)
      (hf : ∀ a ∈ D, ∃ b, f a = .ok b) (name : String) : Supports E (s.map f name) {b | ∃ a ∈ D, f a = .ok b}
  | filter {α : Type} {s : Strategy α} {D : Set α} {accepts : α → Except Fault Bool} (hs : Supports E s D)
      (haccepts : ∀ a ∈ D, ∃ b, accepts a = .ok b) (whence : String) :
      Supports E (s.filter accepts whence) {a ∈ D | accepts a = .ok true}
  | oneOf {α : Type} {options : List (Nat × Strategy α)} {D : Fin options.length → Set α}
      (hoptions : ∀ i, Supports E (options.get i).2 (D i))
      (hredraw : ∀ seed i e, i < options.length → (redraw options seed i).1 = .error e → E e) :
      Supports E (oneOf options) (⋃ i, D i)
  | tuples {α : Type} {parts : List (Strategy α)} {D : Fin parts.length → Set α}
      (hparts : ∀ i, Supports E (parts.get i) (D i)) : Supports E (tuples parts) (List.ofFn '' Set.univ.pi D)
  | lists {α : Type} {element : Strategy α} {D : Set α} (helement : Supports E element D) {minSize maxSize : Nat}
      (hle : minSize ≤ maxSize) : Supports E (lists element minSize maxSize)
        {as | minSize ≤ as.length ∧ as.length ≤ maxSize ∧ ∀ a ∈ as, a ∈ D}
  | titled {α : Type} {s : Strategy α} {D : Set α} (hs : Supports E s D) (shown : String) :
      Supports E { s with shown := shown } D

theorem Supports.keeps {s : Strategy α} {D : Set α} (h : Supports E s D) :
    ∃ I, s.tree.Keeps I ∧ s.Draws I ∧ ∀ tree, I tree → s.tree.Shows E (· ∈ D) tree := by
  induction h with
  | just a shown =>
    refine ⟨_, ValueTree.fixed_keeps a, ⟨fun _ => trivial⟩, fun tree _ => ⟨?_, nofun⟩⟩
    rintro b ⟨⟩
    exact rfl
  | @integers lo hi hle =>
    refine ⟨_, Search.tree_keeps lo hi, draws_integers fun n hn => Search.start_bounded (hn hle) (by omega), ?_⟩
    refine fun search hsearch => ⟨?_, nofun⟩
    rintro n ⟨⟩
    exact hsearch.valueAt hsearch.le
  | @map _ _ s D f hs hf name ih =>
    obtain ⟨I, hkeeps, hdraws, hshows⟩ := ih
    refine ⟨I, hkeeps.map f, ⟨hdraws.draw⟩, fun tree htree => ⟨fun b hb => ?_, fun e he => ?_⟩⟩
    · obtain ⟨a, ha, hb⟩ := bind_eq_ok.1 hb
      exact ⟨a, (hshows tree htree).1 a ha, hb⟩
    · rcases bind_eq_error.1 he with he | ⟨a, ha, he⟩
      · exact (hshows tree htree).2 e he
      · obtain ⟨b, hb⟩ := hf a ((hshows tree htree).1 a ha)
        exact absurd (hb.symm.trans he) nofun
  | @filter _ s D accepts hs haccepts whence ih =>
    obtain ⟨I, hkeeps, hdraws, hshows⟩ := ih
    refine ⟨_, hkeeps.filter accepts whence, ⟨fun source => ?_⟩, fun tree htree => ?_⟩
    · refine ((hdraws.filter accepts whence).draw source).mono (fun tree _ htree => ⟨htree.1, fun a ha => ?_⟩)
        fun _ _ h => h
      obtain ⟨a', ha', htrue⟩ := bind_eq_ok.1 htree.2
      obtain rfl := Except.ok.inj (ha'.symm.trans ha)
      exact htrue
    · exact (hshows tree htree.1).mono fun a ha hmem => ⟨hmem, htree.2 a ha⟩
  | @oneOf _ options D hoptions hredraw ih =>
    choose I hkeeps hdraws hshows using ih
    refine ⟨_, Pick.tree_keeps (.tagged hkeeps) (fun _ _ _ _ h => (redraw_holds hdraws h).2) hredraw,
      draws_oneOf hdraws fun seed tree htree => ⟨⟨?_, nofun⟩, Nat.le_of_lt tree.1.isLt, nofun, nofun⟩,
      fun pick hpick => hpick.shows fun tree htree => ?_⟩
    · rintro _ ⟨⟩
      exact htree
    · exact ValueTree.Shows.mono (hshows tree.1 tree.2 htree) fun a _ ha => Set.mem_iUnion.2 ⟨tree.1, ha⟩
  | @tuples _ parts D hparts ih =>
    choose I hkeeps hdraws hshows using ih
    refine ⟨_, Fields.tree_keeps (.taggedAt hkeeps) parts.length, draws_tuples hdraws fun trees hkinds htrees => ?_,
      fun fields hfields => ?_⟩
    · refine ⟨by simpa using congrArg List.length hkinds, fun i tree htree => ?_⟩
      exact ⟨kind_of_getElem? hkinds htree, htrees tree (List.mem_of_getElem? htree)⟩
    · have hfield (i : Nat) (tree : Field parts) (htree : (tree.1 : Nat) = i ∧ I tree.1 tree.2) :
          (ValueTree.tagged fun i => (parts.get i).tree).Shows E (fun a => ∀ j : Fin parts.length, (j : Nat) = i → a ∈ D j) tree := by
        refine ValueTree.Shows.mono (hshows tree.1 tree.2 htree.2) fun a _ ha j hj => ?_
        obtain rfl : tree.1 = j := Fin.ext (htree.1.trans hj.symm)
        exact ha
      refine (Fields.shows hfield hfields.2).mono fun as _ has => ?_
      exact mem_ofFn_pi (has.1.trans hfields.1) fun i a ha => has.2 i a ha i rfl
  | lists helement hle ih =>
    obtain ⟨I, hkeeps, hdraws, hshows⟩ := ih
    exact ⟨_, Elements.tree_keeps hkeeps _ _,
      draws_lists_sized hdraws fun trees hlength htrees => Elements.start_sized htrees (hlength hle),
      fun elements helements => helements.shows hshows⟩
  | titled hs shown ih =>
    obtain ⟨I, hkeeps, hdraws, hshows⟩ := ih
    exact ⟨I, hkeeps, ⟨hdraws.draw⟩, hshows⟩

theorem Supports.congr {s : Strategy α} {D D' : Set α} (h : Supports E s D) (hD : ∀ a, a ∈ D ↔ a ∈ D') :
    Supports E s D' := Set.ext hD ▸ h

theorem supports_booleans : Supports E booleans Set.univ := by
  have hbits : Supports E (integers 0 1) {n | 0 ≤ n ∧ n ≤ 1} := .integers (by decide)
  refine (hbits.map (fun _ _ => ⟨_, rfl⟩) _).congr fun b => ⟨fun _ => trivial, fun _ => ?_⟩
  cases b with
  | false => exact ⟨0, ⟨by decide, by decide⟩, rfl⟩
  | true => exact ⟨1, ⟨by decide, by decide⟩, rfl⟩

theorem supports_sampledFrom {values : List α} (hvalues : values ≠ []) :
    Supports E (sampledFrom values) {a | a ∈ values} := by
  have hpos := List.length_pos_of_ne_nil hvalues
  have hindices : Supports E (integers 0 (values.length - 1)) {i | 0 ≤ i ∧ i ≤ values.length - 1} :=
    .integers (by omega)
  have hmap : Supports E (sampledFrom values) _ := .map hindices (fun i hi => ?_) _
  · refine hmap.congr fun a => ⟨?_, fun ha => ?_⟩
    · rintro ⟨i, -, ha⟩
      cases hget : values[i.toNat]? with
      | none =>
        rw [hget] at ha
        cases ha
      | some b =>
        rw [hget] at ha
        cases ha
        exact List.mem_of_getElem? hget
    · obtain ⟨i, hi, rfl⟩ := List.getElem_of_mem ha
      refine ⟨i, ⟨Int.natCast_nonneg i, by omega⟩, ?_⟩
      rw [Int.toNat_natCast, List.getElem?_eq_getElem hi]
      rfl
  · obtain ⟨hlo, hhi⟩ := hi
    rw [List.getElem?_eq_getElem (show i.toNat < values.length by omega)]
    exact ⟨_, rfl⟩

theorem supports_builds {β : Type} {make : List α → Except Fault β} {parts : List (Strategy α)}
    {D : Fin parts.length → Set α} (hparts : ∀ i, Supports E (parts.get i) (D i))
    (hmake : ∀ as ∈ List.ofFn '' Set.univ.pi D, ∃ b, make as = .ok b) :
    Supports E (builds make parts) {b | ∃ as ∈ List.ofFn '' Set.univ.pi D, make as = .ok b} :=
  .map (.tuples hparts) hmake _

/-- However the calls are ordered, a drawn tree shows values of the support. -/
theorem drawn_stays_in_support {s : Strategy α} {D : Set α} (hs : Supports E s D) : s.Draws fun tree =>
    ∀ calls answers, (Act.each (ValueTree.Call.perform s.tree) calls tree).answer = .ok answers →
      s.tree.Shows E (· ∈ D) (Act.each (ValueTree.Call.perform s.tree) calls tree).state := by
  obtain ⟨I, hkeeps, hdraws, hshows⟩ := hs.keeps
  refine ⟨fun source => (hdraws.draw source).mono (fun tree _ htree calls answers hanswers => ?_) fun _ _ h => h⟩
  exact hshows _ ((hkeeps.each htree calls).of_ok hanswers)

def coin : Strategy Int := oneOf [(1, just 1 "1"), (2, just 10 "10")]

theorem coin_redraws (seed i : Nat) (e : Fault) (hi : i < 2) :
    (redraw [(1, just 1 "1"), (2, just (10 : Int) "10")] seed i).1 ≠ .error e := by
  match i, hi with
  | 0, _ => exact nofun
  | 1, _ => exact nofun

theorem supports_coin : Supports (fun _ => False) coin {a | a = 1 ∨ a = 10} := by
  have hoptions : ∀ i : Fin 2, Supports (fun _ => False) ([(1, just 1 "1"), (2, just (10 : Int) "10")].get i).2
      {a | a = if i = 0 then 1 else 10} := Fin.forall_fin_two.2 ⟨.just 1 "1", .just 10 "10"⟩
  have hcoin : Supports (fun _ => False) coin _ := .oneOf hoptions coin_redraws
  exact hcoin.congr fun a => Set.mem_iUnion.trans Fin.exists_fin_two

def purses : Strategy Int :=
  ((lists coin 1 3).map (fun as => .ok (as.foldr (· + ·) 0)) "sum").filter (fun n => .ok (n % 2 == 0)) "even"

theorem supports_purses : Supports (fun _ => False) purses {n | n % 2 = 0 ∧ ∃ as : List Int,
    1 ≤ as.length ∧ as.length ≤ 3 ∧ (∀ a ∈ as, a = 1 ∨ a = 10) ∧ as.foldr (· + ·) 0 = n} := by
  have hsums : Supports (fun _ => False) purses _ :=
    .filter (.map (.lists supports_coin (by decide)) (fun _ _ => ⟨_, rfl⟩) _) (fun _ _ => ⟨_, rfl⟩) _
  refine hsums.congr fun n => ⟨?_, ?_⟩
  · rintro ⟨⟨as, ⟨hleast, hmost, hcoins⟩, hsum⟩, heven⟩
    exact ⟨eq_of_beq (Except.ok.inj heven), as, hleast, hmost, hcoins, Except.ok.inj hsum⟩
  · rintro ⟨heven, as, hleast, hmost, hcoins, rfl⟩
    exact ⟨⟨as, ⟨hleast, hmost, hcoins⟩, rfl⟩, congrArg Except.ok (beq_iff_eq.2 heven)⟩

def purseWords : List UInt32 :=
  [0x80000000, 0xFFFFFFFF, 0xFFFFFFFF, 0, 0, 0xFFFFFFFF, 0xFFFFFFFF, 0, 0, 0xFFFFFFFF, 0xFFFFFFFF]

theorem drawn_purse_stays_in_support : ∃ tree, (purses.draw purseWords).answer = .ok tree ∧
    let backed := Act.each (ValueTree.Call.perform purses.tree) [.simplify, .simplify, .simplify, .complicate] tree
    backed.answer = .ok [true, true, true, false] ∧ purses.tree.Shows (fun _ => False) (· ∈ {n | n % 2 = 0 ∧
      ∃ as : List Int, 1 ≤ as.length ∧ as.length ≤ 3 ∧ (∀ a ∈ as, a = 1 ∨ a = 10) ∧ as.foldr (· + ·) 0 = n}) backed.state := by
  have hmoves : ((purses.draw purseWords).answer.toOption.bind fun tree =>
      (Act.each (ValueTree.Call.perform purses.tree) [.simplify, .simplify, .simplify, .complicate]
        tree).answer.toOption) = some [true, true, true, false] := by decide +kernel
  obtain ⟨tree, htree, hanswers⟩ := Option.bind_eq_some_iff.1 hmoves
  have hdrawn := toOption_eq_some.1 htree
  refine ⟨tree, hdrawn, toOption_eq_some.1 hanswers, ?_⟩
  exact (drawn_stays_in_support supports_purses).holds hdrawn _ _ (toOption_eq_some.1 hanswers)

end Strategy
end StateCheck
