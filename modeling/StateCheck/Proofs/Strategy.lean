import StateCheck.Proofs.Draws
import StateCheck.Proofs.Sequence.Robust
import StateCheck.Proofs.Tree.Elements
import StateCheck.Proofs.Tree.Fields
import StateCheck.Proofs.Tree.Pick
import StateCheck.Proofs.Tree.Search

/-! Strategies made by the combinators draw trees that back off, whatever functions and filters are nested
in each other. -/

namespace StateCheck

namespace Strategy
variable {α : Type} {E : Fault → Prop}

/-- Made by the combinators from functions that do not raise. Alternatives drawn on demand raise faults of
the kind `E` only. -/
inductive Built (E : Fault → Prop) : {α : Type} → Strategy α → Prop
  | just {α : Type} (a : α) (shown : String) : Built E (just a shown)
  | integers (lo hi : Int) : Built E (integers lo hi)
  | map {α β : Type} {s : Strategy α} {f : α → Except Fault β} (hs : Built E s) (hf : ∀ a, ∃ b, f a = .ok b)
      (name : String) : Built E (s.map f name)
  | filter {α : Type} {s : Strategy α} {accepts : α → Except Fault Bool} (hs : Built E s)
      (haccepts : ∀ a, ∃ b, accepts a = .ok b) (whence : String) : Built E (s.filter accepts whence)
  | oneOf {α : Type} {options : List (Nat × Strategy α)} (hoptions : ∀ o ∈ options, Built E o.2)
      (hredraw : ∀ seed i e, i < options.length → (redraw options seed i).1 = .error e → E e) :
      Built E (oneOf options)
  | tuples {α : Type} {parts : List (Strategy α)} (hparts : ∀ s ∈ parts, Built E s) : Built E (tuples parts)
  | lists {α : Type} {element : Strategy α} (helement : Built E element) (minSize maxSize : Nat) :
      Built E (lists element minSize maxSize)
  | titled {α : Type} {s : Strategy α} (hs : Built E s) (shown : String) : Built E { s with shown := shown }

inductive Reliable (E : Fault → Prop) : {α : Type} → Strategy α → Prop
  | just {α : Type} (a : α) (shown : String) : Reliable E (just a shown)
  | integers (lo hi : Int) : Reliable E (integers lo hi)
  | map {α β : Type} {s : Strategy α} {f : α → Except Fault β} (hs : Reliable E s) (hf : ∀ a, ∃ b, f a = .ok b)
      (name : String) : Reliable E (s.map f name)
  | filter {α : Type} {s : Strategy α} {accepts : α → Except Fault Bool} (hs : Reliable E s)
      (haccepts : ∀ a, ∃ b, accepts a = .ok b) (whence : String) : Reliable E (s.filter accepts whence)
  | oneOf {α : Type} {options : List (Nat × Strategy α)} (hoptions : ∀ o ∈ options, Reliable E o.2)
      (hredraw : ∀ seed i e, i < options.length → (redraw options seed i).1 = .error e → E e) :
      Reliable E (oneOf options)
  | tuples {α : Type} {parts : List (Strategy α)} (hparts : ∀ s ∈ parts, Reliable E s) : Reliable E (tuples parts)
  | lists {α : Type} {element : Strategy α} (helement : Reliable E element) (minSize maxSize : Nat) :
      Reliable E (lists element minSize maxSize)
  | sequences {S T : Type} [BEq S] [BEq T] {model : Model S T} (hrules : model.toRules.Total)
      (hinitial : Reliable E model.initial) (hnext : ∀ s, Reliable E (model.next s)) (settings : Settings) :
      Reliable E (sequences model settings)
  | titled {α : Type} {s : Strategy α} (hs : Reliable E s) (shown : String) : Reliable E { s with shown := shown }

theorem Built.reliable {s : Strategy α} (h : Built E s) : Reliable E s := by
  induction h with
  | just a shown => exact .just a shown
  | integers lo hi => exact .integers lo hi
  | map hs hf name ih => exact .map ih hf name
  | filter hs haccepts whence ih => exact .filter ih haccepts whence
  | oneOf hoptions hredraw ih => exact .oneOf ih hredraw
  | tuples hparts ih => exact .tuples ih
  | lists helement minSize maxSize ih => exact .lists ih minSize maxSize
  | titled hs shown ih => exact .titled ih shown

theorem Reliable.drawsFresh {s : Strategy α} (h : Reliable E s) : s.Draws (s.tree.Fresh E) := by
  induction h with
  | just a shown => exact ⟨fun _ => ValueTree.fixed_fresh a⟩
  | integers lo hi => exact draws_integers fun n _ => Search.start_fresh n _
  | map hs hf name ih => exact ⟨fun source => (ih.draw source).mono (fun _ _ h => h.map hf) fun _ _ h => h⟩
  | filter hs haccepts whence ih =>
    refine ⟨fun source => ((ih.filter _ whence).draw source).mono (fun tree _ htree => ?_) fun _ _ h => h⟩
    refine htree.1.filter haccepts fun a ha => ?_
    obtain ⟨a', ha', htrue⟩ := bind_eq_ok.1 htree.2
    rw [ha] at ha'
    cases ha'
    exact htrue
  | @oneOf _ options hoptions hredraw ih =>
    have hdraws (i : Fin options.length) : (options.get i).2.Draws ((options.get i).2.tree.Fresh E) :=
      ih _ (List.get_mem options i)
    refine draws_oneOf hdraws fun seed tree htree => ?_
    refine Pick.fresh ⟨fun hi hdrawn => ?_, fun hi h => hredraw _ _ _ hi h⟩ htree.tagged (Nat.le_of_lt tree.1.isLt)
    exact (redraw_holds hdraws hdrawn).2.tagged
  | @tuples _ parts hparts ih =>
    exact draws_tuples (fun i => ih _ (List.get_mem parts i)) fun _ _ htrees =>
      Fields.fresh fun tree htree => (htrees tree htree).tagged
  | lists helement minSize maxSize ih => exact draws_lists ih fun _ htrees => Elements.start_fresh htrees minSize
  | sequences hrules hinitial hnext settings ih ih' => exact Model.draws_sequences hrules ih ih' settings
  | titled hs shown ih => exact ⟨ih.draw⟩

theorem Built.drawsFresh {s : Strategy α} (h : Built E s) : s.Draws (s.tree.Fresh E) := h.reliable.drawsFresh

end Strategy
end StateCheck
