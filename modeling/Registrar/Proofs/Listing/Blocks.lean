import Registrar.Proofs.Listing.Generated
import Registrar.Synthesis.EntryPoint

/-! Reading the blocks of a listing. Blocks are nested to any depth, and what is behind a block is a
brace that stands less deep than its instructions; so the text of a block that was numbered from some
slot on tells where it ends, its instructions, and all of their slots. -/
namespace Registrar

open Text

namespace Instruction

/-- An instruction without blocks. -/
def Flat : Instruction → Prop
  | branch .. => False
  | isolate .. => False
  | _ => True

theorem Flat.lead_eq {i : Instruction} (h : i.Flat) : i.lead = i := by
  cases i with
  | branch | isolate => exact h.elim
  | _ => rfl

theorem Flat.of_lead {i j : Instruction} (h : i.Flat) (same : i.lead = j.lead) : j.Flat := by
  have flat (i : Instruction) : i.lead.Flat ↔ i.Flat := by cases i <;> rfl
  exact (flat j).1 (same ▸ (flat i).2 h)

/-- What follows the line of an instruction, in the same indentation. -/
def inner (depth : Nat) : Instruction → List Char
  | branch _ a b =>
    Block.rendering (depth + 1) a ++ (lineAt depth "\x7d else \x7b" ++
      (Block.rendering (depth + 1) b ++ lineAt depth "\x7d"))
  | isolate b e v handler =>
    Block.rendering (depth + 1) b ++
      (lineAt depth ("\x7d catch " ++ e ++ " " ++ v.text ++ " \x7b") ++
        (Block.rendering (depth + 1) handler ++ lineAt depth "\x7d"))
  | _ => []

theorem Flat.inner_eq {i : Instruction} (h : i.Flat) (depth : Nat) : i.inner depth = [] := by
  cases i with
  | branch | isolate => exact h.elim
  | _ => rfl

theorem rendering_eq (i : Instruction) (depth : Nat) :
    i.rendering depth = indentation depth ++ (i.line.toList ++ '\n' :: i.inner depth) := by
  have whole : i.rendering depth = lineAt depth i.line ++ i.inner depth := by
    cases i <;> simp [rendering, inner, line]
  rw [whole, lineAt]
  simp

/-- An instruction is read line by line. -/
theorem line_append_inj {i j : Instruction} (hi : OneLine i.line) (hj : OneLine j.line) {depth : Nat}
    {s t : List Char} (same : i.rendering depth ++ s = j.rendering depth ++ t) :
    i.line = j.line ∧ i.inner depth ++ s = j.inner depth ++ t := by
  rw [rendering_eq, rendering_eq, List.append_assoc, List.append_assoc, List.append_assoc,
    List.append_assoc] at same
  obtain ⟨lines, rest⟩ := cut_inj hi hj (List.append_cancel_left same)
  exact ⟨String.toList_inj.1 lines, rest⟩

end Instruction

/-- The text goes on with a brace at this depth. -/
def Closes (depth : Nat) (s : List Char) : Prop := ∃ rest, s = indentation depth ++ '\x7d' :: rest

namespace Closes

theorem lineAt {depth : Nat} {text : String} (first : text.toList.head? = some '\x7d')
    (s : List Char) : Closes depth (Text.lineAt depth text ++ s) := by
  obtain ⟨rest, eq⟩ := List.head?_eq_some_iff.1 first
  refine ⟨rest ++ '\n' :: s, ?_⟩
  rw [Text.lineAt, eq]
  simp

theorem catching {depth : Nat} {e : String} {v : ValueId} (s : List Char) :
    Closes depth (Text.lineAt depth ("\x7d catch " ++ e ++ " " ++ v.text ++ " \x7b") ++ s) :=
  lineAt (by simp) s

/-- No instruction of the block that is closed begins so. -/
theorem ne {depth : Nat} {s t : List Char} (h : Closes depth s) {i : Instruction} {is : Block} :
    s ≠ Block.rendering (depth + 1) (i :: is) ++ t := by
  obtain ⟨rest, rfl⟩ := h
  rw [Block.rendering, Instruction.rendering_eq, indentation_succ, List.append_assoc,
    List.append_assoc, List.append_assoc]
  intro same
  exact absurd (List.cons.inj (List.append_cancel_left same)).1 (by decide)

end Closes

/-- The block is as generated code has it, and its slots are those from `n` on that lie below `m`. -/
inductive Laid (owner : String) : (n : Nat) → Block → (m : Nat) → Prop
  | nil (n : Nat) : Laid owner n [] n
  | flat {n m : Nat} {i : Instruction} {is : Block} (single : i.Flat) (shown : i.Shown owner n)
      (rest : Laid owner (n + i.ids.length) is m) : Laid owner n (i :: is) m
  | branch {n k l m : Nat} {c : ValueId} {a b is : Block} (first : Laid owner n a k)
      (second : Laid owner k b l) (rest : Laid owner l is m) : Laid owner n (.branch c a b :: is) m
  | isolate {n k l m : Nat} {b handler is : Block} (body : Laid owner n b k)
      (handling : Laid owner (k + 1) handler l) (rest : Laid owner l is m) :
      Laid owner n (.isolate b throwable ⟨k.toUInt32⟩ handler :: is) m

namespace Laid

variable {owner : String} {n m m' k : Nat} {is js : Block} {s t : List Char}

theorem append (h : Laid owner n is k) (h' : Laid owner k js m) : Laid owner n (is ++ js) m := by
  induction h with
  | nil n => exact h'
  | flat single shown _ ih => exact .flat single shown (ih h')
  | branch first second _ _ _ ih => exact .branch first second (ih h')
  | isolate body handling _ _ _ ih => exact .isolate body handling (ih h')

theorem single {i : Instruction} (single : i.Flat) (shown : i.Shown owner n) :
    Laid owner n [i] (n + i.ids.length) := .flat single shown (.nil _)

theorem shown {i : Instruction} (h : Laid owner n (i :: is) m) : i.Shown owner n := by
  cases h with
  | flat _ shown => exact shown
  | branch => trivial
  | isolate => rfl

/-- The first instructions agree but for their blocks, and what follows their lines agrees. -/
theorem lead_inj (line : OneLine owner) {i j : Instruction} (h : Laid owner n (i :: is) m)
    (h' : Laid owner n (j :: js) m') {depth : Nat}
    (same : Block.rendering depth (i :: is) ++ s = Block.rendering depth (j :: js) ++ t) :
    i.lead = j.lead ∧ i.inner depth ++ (Block.rendering depth is ++ s) =
      j.inner depth ++ (Block.rendering depth js ++ t) := by
  rw [Block.rendering, Block.rendering, List.append_assoc, List.append_assoc] at same
  obtain ⟨lines, rest⟩ := Instruction.line_append_inj (Instruction.oneLine_line line h.shown)
    (Instruction.oneLine_line line h'.shown) same
  exact ⟨Instruction.lead_inj h.shown h'.shown lines, rest⟩

/-- Blocks with the same text are the same, if they have been numbered from the same slot on. -/
theorem read (line : OneLine owner) (h : Laid owner n is m) (h' : Laid owner n js m') {depth : Nat}
    (hs : Closes depth s) (ht : Closes depth t)
    (same : Block.rendering (depth + 1) is ++ s = Block.rendering (depth + 1) js ++ t) :
    is = js ∧ m = m' ∧ s = t := by
  -- The two blocks go on in step: a first instruction against the end of the other block would be a
  -- brace in the place of a blank, and inner blocks of equal text take equally many slots.
  have whole := h
  induction h generalizing js m' s t depth with
  | nil n =>
    cases js with
    | nil =>
      cases h'
      exact ⟨rfl, rfl, same⟩
    | cons j js => exact absurd same hs.ne
  | @flat n m i is single shown tail ih =>
    cases js with
    | nil => exact absurd same.symm ht.ne
    | cons j js =>
      obtain ⟨leads, rest⟩ := lead_inj line whole h' same
      cases h' with
      | flat single' shown' tail' =>
        rw [single.lead_eq, single'.lead_eq] at leads
        subst leads
        rw [single.inner_eq] at rest
        obtain ⟨rfl, rfl, rfl⟩ := ih tail' hs ht rest tail
        exact ⟨rfl, rfl, rfl⟩
      | branch => exact (single.of_lead leads).elim
      | isolate => exact (single.of_lead leads).elim
  | @branch n k l m c a b is first second tail ihFirst ihSecond ih =>
    cases js with
    | nil => exact absurd same.symm ht.ne
    | cons j js =>
      obtain ⟨leads, rest⟩ := lead_inj line whole h' same
      cases h' with
      | flat single' => exact (single'.of_lead leads.symm).elim
      | branch first' second' tail' =>
        simp only [Instruction.lead, Instruction.branch.injEq, and_true] at leads
        subst leads
        simp only [Instruction.inner, List.append_assoc] at rest
        obtain ⟨rfl, rfl, rest⟩ := ihFirst first' (.lineAt rfl _) (.lineAt rfl _) rest first
        obtain ⟨rfl, rfl, rest⟩ := ihSecond second' (.lineAt rfl _) (.lineAt rfl _)
          (List.append_cancel_left rest) second
        obtain ⟨rfl, rfl, rfl⟩ := ih tail' hs ht (List.append_cancel_left rest) tail
        exact ⟨rfl, rfl, rfl⟩
      | isolate => cases leads
  | @isolate n k l m b handler is body handling tail ihBody ihHandling ih =>
    cases js with
    | nil => exact absurd same.symm ht.ne
    | cons j js =>
      obtain ⟨leads, rest⟩ := lead_inj line whole h' same
      cases h' with
      | flat single' => exact (single'.of_lead leads.symm).elim
      | branch => cases leads
      | isolate body' handling' tail' =>
        simp only [Instruction.inner, List.append_assoc] at rest
        obtain ⟨rfl, rfl, rest⟩ := ihBody body' (.catching _) (.catching _) rest body
        obtain ⟨rfl, rfl, rest⟩ := ihHandling handling' (.lineAt rfl _) (.lineAt rfl _)
          (List.append_cancel_left rest) handling
        obtain ⟨rfl, rfl, rfl⟩ := ih tail' hs ht (List.append_cancel_left rest) tail
        exact ⟨rfl, rfl, rfl⟩

end Laid

/-! ### Generated blocks -/

variable {owner : String}

theorem oneLine_namedTypes : ∀ t ∈ Platform.namedTypes, OneLine t :=
  OneLine.all [_, _, _, _, _, _, _, _, _, _, _, _, _, _] (by decide)

theorem Operation.flat_into (op : Operation) (dest : ValueId) : (op.into dest).Flat := by
  cases op <;> trivial

theorem Operation.Usual.shown {op : Operation} (h : op.Usual OneLine) (n : Nat) :
    (op.into ⟨n.toUInt32⟩).Shown owner n := by
  cases h with
  | constant usual => exact ⟨rfl, usual⟩
  | loadClass line => exact ⟨rfl, line⟩
  | param => rfl
  | invokeStatic platform passes => exact ⟨rfl, .platform platform fun _ => passes⟩
  | invokeVirtual platform => exact ⟨rfl, .platform platform nofun⟩
  | invokeInterface platform => exact ⟨rfl, .platform platform nofun⟩
  | newInstance line => exact ⟨rfl, line⟩
  | newArray line length => exact ⟨rfl, line⟩
  | declare line => exact ⟨rfl, line⟩

/-- A worker takes and returns nothing, and its name is a word and a number. -/
theorem Operation.Entering.shown {p : Plan} {o : Options} {op : Operation}
    (h : op.Entering OneLine (p.workers o)) (n : Nat) :
    (op.into ⟨n.toUInt32⟩).Shown (dotted o.unitName) n := by
  cases h with
  | usual h => exact h.shown n
  | call listed =>
    refine ⟨rfl, ?_⟩
    rcases List.mem_append.1 listed with class_ | jni
    · obtain ⟨i, -, rfl⟩ := List.mem_map.1 class_
      exact .own ((by decide : OneLine "registerClass").append (.number i))
    · obtain ⟨i, -, rfl⟩ := List.mem_map.1 jni
      exact .own ((by decide : OneLine "registerJniAccessibleClass").append (.number i))

theorem Emission.Consists.laid {P : Operation → Prop}
    (shown : ∀ op, P op → ∀ n : Nat, (op.into ⟨n.toUInt32⟩).Shown owner n) {α : Type}
    {x : Emission α} {k : Nat} (h : Consists P k x) (n : Nat) : Laid owner n (x n).block (x n).next := by
  induction h generalizing n with
  | done a => exact .nil n
  | bind _ _ first rest =>
    rw [Emit.block_bind, Emit.next_bind]
    exact (first n).append (rest _ _)
  | @operation op h =>
    rw [op.emit_eq]
    have laid := Laid.single (op.flat_into _) (shown op h n)
    rwa [op.ids_into] at laid
  | statement s =>
    rw [s.emit_eq]
    have laid : Laid owner n [s.instruction] (n + s.instruction.ids.length) :=
      .single (by cases s <;> trivial) (by cases s <;> trivial)
    rwa [s.ids_instruction] at laid
  | branch condition _ _ first second =>
    rw [Emit.block_branch, Emit.next_branch]
    exact .branch (first n) (second _) (.nil _)
  | isolate _ _ inner handling =>
    rw [Emit.block_isolate, Emit.next_isolate]
    exact .isolate (inner n) (handling _ _) (.nil _)
  | atMost _ _ ih => exact ih n

end Registrar
