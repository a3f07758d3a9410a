import Registrar.Proofs.Assembly.Composition
import Registrar.Proofs.Listing.Lines

/-! The lines of generated code. The line of a call leaves out the slot that it fills if nothing is
returned, and a line can be any text where names and constants are arbitrary; but where the number of
the next slot is known, and names are those of classes, a line tells all of its instruction but for
the blocks behind it. -/
namespace Registrar

open Text

namespace OneLine

theorem append {s t : String} (hs : OneLine s) (ht : OneLine t) : OneLine (s ++ t) := by
  simpa [OneLine] using ⟨hs, ht⟩

theorem join {ss : List String} (h : ∀ s ∈ ss, OneLine s) : OneLine (", ".intercalate ss) := by
  rw [OneLine, String.toList_intercalate]
  exact not_mem_join (by decide) (List.forall_mem_map.2 h)

theorem number (n : Nat) : OneLine (toString n) := by
  rw [OneLine, toList_toString]
  exact fun listed => absurd (isDigit_of_mem listed) (by decide)

theorem value (v : ValueId) : OneLine v.text := v.not_mem_text (by decide)

theorem method {m : MethodRef} (owner : OneLine m.owner) (name : OneLine m.name)
    (params : ∀ p ∈ m.params, OneLine p) (returns : OneLine m.returns) : OneLine m.text :=
  (((((owner.append (by decide)).append name).append (by decide)).append (join params)).append
    (by decide)).append returns

end OneLine

/-! ### Calls -/

/-- A call that its line tells: of a method of the platform, or of a routine of this owner that takes
and returns nothing. A static method that returns nothing has to be called with arguments, or else it
could be such a routine. -/
inductive Told (owner : String) : InvokeKind → MethodRef → Option ValueId → List ValueId → Prop
  | platform {kind : InvokeKind} {m : MethodRef} {r : Option ValueId} {args : List ValueId}
      (listed : m ∈ Platform.methods) (passes : kind = .static → m.returns = void → args ≠ []) :
      Told owner kind m r args
  | own {name : String} (line : OneLine name) :
      Told owner .static { owner, name, params := [], returns := void } none []

/-- What stands behind the keyword of a call. -/
def callText (kind : InvokeKind) (m : MethodRef) (r : Option ValueId) (args : List ValueId) :
    List Char :=
  kind.word.toList ++ ' ' :: (m.text.toList ++
    ((receiverText r).toList ++ (" (".toList ++ (argsText args ++ [')']))))

namespace Told

variable {owner : String} {kind kind' : InvokeKind} {m m' : MethodRef} {r r' : Option ValueId}
  {args args' : List ValueId}

/-- Receivers and arguments are told apart by their first character. -/
theorem behind_inj (same : (receiverText r).toList ++ (" (".toList ++ (argsText args ++ [')'])) =
      (receiverText r').toList ++ (" (".toList ++ (argsText args' ++ [')']))) :
    r = r' ∧ args = args' := by
  have on (v : ValueId) : (receiverText (some v)).toList =
      ' ' :: 'o' :: 'n' :: ' ' :: v.text.toList := String.toList_append ..
  have paren : " (".toList = [' ', '('] := rfl
  have noText : (receiverText none).toList = [] := rfl
  have last {a b : List ValueId} (same : argsText a ++ [')'] = argsText b ++ [')']) : a = b :=
    argsText_inj (List.append_cancel_right same)
  cases r with
  | none =>
    cases r' with
    | none =>
      rw [noText] at same
      exact ⟨rfl, last (List.append_cancel_left same)⟩
    | some v => simp [on, paren, noText] at same
  | some v =>
    cases r' with
    | none => simp [on, paren, noText] at same
    | some w =>
      simp only [on, paren, List.cons_append, List.nil_append, List.cons.injEq, true_and] at same
      obtain ⟨rfl, rest⟩ := ValueId.text_append_inj (by simp) (by simp) same
      simp only [List.cons.injEq, true_and] at rest
      exact ⟨rfl, last rest⟩

theorem own_inj {name name' : String}
    (same : callText .static { owner, name, params := [], returns := void } none [] =
      callText .static { owner, name := name', params := [], returns := void } none []) :
    name = name' := by
  simpa [callText, MethodRef.toList_text, ← String.toList_inj] using same

/-- The braces of a call without arguments stand side by side. -/
theorem not_own {name : String} (some : args ≠ [])
    (same : callText kind m r args =
      callText .static { owner, name, params := [], returns := void } none []) : False := by
  obtain ⟨front, digit, eq, isDigit⟩ := argsText_last some
  have ends (m : MethodRef) : ∃ a, callText .static m none [] = a ++ ['('] ++ [')'] :=
    ⟨InvokeKind.static.word.toList ++ ' ' :: (m.text.toList ++ [' ']), by
      simp [callText, receiverText, argsText]⟩
  obtain ⟨a, own⟩ := ends { owner, name, params := [], returns := void }
  have passed : callText kind m r args = kind.word.toList ++ ' ' :: (m.text.toList ++
      ((receiverText r).toList ++ (" (".toList ++ front))) ++ [digit] ++ [')'] := by
    simp [callText, eq]
  rw [passed, own] at same
  have bracket := (List.append_inj' (List.append_cancel_right same) rfl).2
  obtain rfl := List.singleton_inj.1 bracket
  exact absurd isDigit (by decide)

theorem inj (h : Told owner kind m r args) (h' : Told owner kind' m' r' args')
    (value : m.returnsValue = m'.returnsValue)
    (same : callText kind m r args = callText kind' m' r' args') :
    kind = kind' ∧ m = m' ∧ r = r' ∧ args = args' := by
  have blank (kind : InvokeKind) : ' ' ∉ kind.word.toList := by
    cases kind <;> decide
  have wordInj {k l : InvokeKind} (same : k.word.toList = l.word.toList) : k = l := by
    revert same
    cases k <;> cases l <;> decide
  obtain ⟨words, rest⟩ := cut_inj (blank kind) (blank kind') same
  obtain rfl := wordInj words
  refine ⟨rfl, ?_⟩
  -- The receiver or the brace behind a method starts with a blank.
  have behind (r : Option ValueId) (args : List ValueId) :
      ∃ s, (receiverText r).toList ++ (" (".toList ++ (argsText args ++ [')'])) = ' ' :: s := by
    cases r with
    | none => exact ⟨_, rfl⟩
    | some v => exact ⟨_, by rw [receiverText, String.toList_append]; rfl⟩
  cases h with
  | platform listed passes =>
    cases h' with
    | platform listed' passes' =>
      obtain ⟨s, hs⟩ := behind r args
      obtain ⟨t, ht⟩ := behind r' args'
      rw [hs, ht] at rest
      obtain ⟨rfl, rfl⟩ := MethodRef.text_append_inj (MethodRef.plain_methods _ listed)
        (MethodRef.plain_methods _ listed') rest
      exact ⟨rfl, behind_inj (hs.trans ht.symm)⟩
    | own line =>
      have nothing : m.returns = void := by simpa [MethodRef.returnsValue] using value
      exact (not_own (passes rfl nothing) same).elim
  | own line =>
    cases h' with
    | platform listed' passes' =>
      have nothing : m'.returns = void := by simpa [MethodRef.returnsValue] using value.symm
      exact (not_own (passes' rfl nothing) same.symm).elim
    | own line' =>
      rw [own_inj same]
      exact ⟨rfl, rfl, rfl⟩

theorem oneLine (line : OneLine owner) (h : Told owner kind m r args) : OneLine m.text := by
  cases h with
  | platform listed =>
    have plain := MethodRef.plain_methods m listed
    exact .method (plain.owner.not_mem (by decide)) (plain.name.not_mem (by decide))
      (fun p hp => (plain.params p hp).2.not_mem (by decide)) (plain.returns.not_mem (by decide))
  | own name => exact .method line name (by simp) (by decide : OneLine void)

end Told

/-! ### Lines -/

theorem Constant.Usual.inj {v w : Constant} (h : v.Usual) (h' : w.Usual) (same : v.text = w.text) :
    v = w := by
  have flag (b : Bool) (s : String) : (Constant.bool b).text ≠ (Constant.str s).text := by
    intro equal
    have chars := congrArg String.toList equal
    cases b <;> simp [text, quote, quoteChars] at chars
  cases h with
  | bool b =>
    cases h' with
    | bool b' => cases b <;> cases b' <;> simp_all [text]
    | str s => exact absurd same (flag b s)
  | str s =>
    cases h' with
    | bool b => exact absurd same.symm (flag b s)
    | str s' => rw [quote_inj same]

theorem Constant.Usual.oneLine {v : Constant} (h : v.Usual) : OneLine v.text := by
  cases h with
  | bool b => cases b <;> decide
  | str s => exact quote_line s

namespace Instruction

/-- The instruction is as generated code has it: it fills the slot of this number if it fills any,
names stay on their line, and calls and constants are told by theirs. -/
def Shown (owner : String) (n : Nat) : Instruction → Prop
  | const d v => d = ⟨n.toUInt32⟩ ∧ v.Usual
  | loadClass d c => d = ⟨n.toUInt32⟩ ∧ OneLine c
  | param d _ => d = ⟨n.toUInt32⟩
  | invoke d k m r as => d = ⟨n.toUInt32⟩ ∧ Told owner k m r as
  | newInstance d c => d = ⟨n.toUInt32⟩ ∧ OneLine c
  | newArray d c _ => d = ⟨n.toUInt32⟩ ∧ OneLine c
  | store .. => True
  | declare d t => d = ⟨n.toUInt32⟩ ∧ OneLine t
  | assign .. => True
  | branch .. => True
  | isolate _ e _ _ => e = throwable
  | leave _ => True

/-- The instruction without its blocks, and without the fault that is caught behind them. -/
def lead : Instruction → Instruction
  | branch c _ _ => branch c [] []
  | isolate _ e _ _ => isolate [] e ⟨0⟩ []
  | i => i

variable {owner : String} {n : Nat} {i j : Instruction}

/-- The keyword, whether a call has a value in front or not. -/
def verb : Instruction → String
  | invoke .. => "invoke "
  | i => i.keyword

theorem verb_eq (i : Instruction) :
    i.verb = if i.keyword = " = invoke " then "invoke " else i.keyword := by
  cases i with
  | invoke d k m r as => cases value : m.returnsValue <;> simp [verb, keyword, value]
  | _ => simp [verb, keyword]

theorem toList_operand_invoke {d : ValueId} {k : InvokeKind} {m : MethodRef} {r : Option ValueId}
    {as : List ValueId} : (invoke d k m r as).operand.toList = callText k m r as := by
  simp [operand, callText, argsText, String.toList_intercalate, Function.comp_def]

/-! ### What an operand says -/

theorem operand_param_inj {d d' : ValueId} {k k' : UInt16}
    (same : (param d k).operand = (param d' k').operand) : k = k' := by
  have digits := congrArg String.toList same
  simp only [operand, toList_toString] at digits
  exact UInt16.toNat_inj.1 (toDigits_inj digits)

theorem operand_newInstance_ne {d d' : ValueId} {c c' : String} {k : UInt32} :
    (newInstance d c).operand ≠ (newArray d' c' k).operand := by
  intro same
  have chars := congrArg String.toList same
  simp only [operand, String.toList_append] at chars
  have ends : c.toList ++ ['('] ++ [')'] =
      c'.toList ++ "[".toList ++ (toString k.toNat).toList ++ [']'] := by simpa using chars
  exact absurd (List.append_inj' ends rfl).2 (by decide)

/-- A component type may have brackets of its own, but the last one opens the length. -/
theorem operand_newArray_inj {d d' : ValueId} {c c' : String} {k k' : UInt32}
    (same : (newArray d c k).operand = (newArray d' c' k').operand) : c = c' ∧ k = k' := by
  have digits (n : Nat) : '[' ∉ Nat.toDigits 10 n ++ [']'] := by
    have : '[' ∉ Nat.toDigits 10 n := fun listed => absurd (isDigit_of_mem listed) (by decide)
    simpa using this
  have parts := congrArg String.toList same
  simp only [operand, String.toList_append, toList_toString, List.append_assoc] at parts
  obtain ⟨names, lengths⟩ := cut_last_inj (digits _) (digits _) parts
  exact ⟨String.toList_inj.1 names,
    UInt32.toNat_inj.1 (toDigits_inj (List.append_cancel_right lengths))⟩

theorem operand_store_inj {a a' v v' : ValueId} {k k' : UInt32}
    (same : (store a k v).operand = (store a' k' v').operand) : k = k' ∧ v = v' := by
  have parts := congrArg String.toList same
  simp only [operand, String.toList_append, toList_toString, List.append_assoc] at parts
  obtain ⟨index, value⟩ := number_inj (by simp) (by simp) parts
  exact ⟨UInt32.toNat_inj.1 index, ValueId.text_inj (List.append_cancel_left value)⟩

theorem operand_branch_inj {c c' : ValueId} {a a' b b' : Block}
    (same : (branch c a b).operand = (branch c' a' b').operand) : c = c' := by
  have parts := congrArg String.toList same
  simp only [operand, String.toList_append] at parts
  exact ValueId.text_inj (List.append_cancel_right parts)

theorem operand_leave_inj {v v' : Option ValueId}
    (same : (leave v).operand = (leave v').operand) : v = v' := by
  cases v <;> cases v' <;> simp [operand, ← String.toList_inj] at same
  · rfl
  · rw [ValueId.text_inj same]

/-- The keyword tells the form of an instruction, but for the two that make something new, and the
operand tells the rest. -/
theorem lead_inj (hi : i.Shown owner n) (hj : j.Shown owner n) (same : i.line = j.line) :
    i.lead = j.lead := by
  obtain ⟨marked, kept, rest⟩ := line_inj same
  have verbs : i.verb = j.verb := by rw [verb_eq, verb_eq, kept]
  cases i with
  | const d v =>
    cases j with
    | const d' v' =>
      obtain ⟨rfl, hv⟩ := hi
      obtain ⟨rfl, hv'⟩ := hj
      rw [hv.inj hv' rest]
    | _ => simp [verb, keyword] at verbs
  | loadClass d c =>
    cases j with
    | loadClass d' c' =>
      obtain ⟨rfl, -⟩ := hi
      obtain ⟨rfl, -⟩ := hj
      obtain rfl : c = c' := rest
      rfl
    | _ => simp [verb, keyword] at verbs
  | param d k =>
    cases j with
    | param d' k' =>
      obtain rfl : d = _ := hi
      obtain rfl : d' = _ := hj
      rw [operand_param_inj rest]
    | _ => simp [verb, keyword] at verbs
  | invoke d k m r as =>
    cases j with
    | invoke d' k' m' r' as' =>
      obtain ⟨rfl, hi⟩ := hi
      obtain ⟨rfl, hj⟩ := hj
      have value : m.returnsValue = m'.returnsValue := by
        simp only [keyword] at kept
        cases first : m.returnsValue <;> cases second : m'.returnsValue <;> simp_all
      have calls := congrArg String.toList rest
      rw [toList_operand_invoke, toList_operand_invoke] at calls
      obtain ⟨rfl, rfl, rfl, rfl⟩ := hi.inj hj value calls
      rfl
    | _ => simp [verb, keyword] at verbs
  | newInstance d c =>
    cases j with
    | newInstance d' c' =>
      obtain ⟨rfl, -⟩ := hi
      obtain ⟨rfl, -⟩ := hj
      have names : c = c' := by simpa [operand, ← String.toList_inj] using rest
      rw [names]
    | newArray d' c' k => exact absurd rest operand_newInstance_ne
    | _ => simp [verb, keyword] at verbs
  | newArray d c k =>
    cases j with
    | newInstance d' c' => exact absurd rest.symm operand_newInstance_ne
    | newArray d' c' k' =>
      obtain ⟨rfl, -⟩ := hi
      obtain ⟨rfl, -⟩ := hj
      obtain ⟨rfl, rfl⟩ := operand_newArray_inj rest
      rfl
    | _ => simp [verb, keyword] at verbs
  | store a k v =>
    cases j with
    | store a' k' v' =>
      obtain rfl := ValueId.text_inj marked
      obtain ⟨rfl, rfl⟩ := operand_store_inj rest
      rfl
    | _ => simp [verb, keyword] at verbs
  | declare d t =>
    cases j with
    | declare d' t' =>
      obtain ⟨rfl, -⟩ := hi
      obtain ⟨rfl, -⟩ := hj
      obtain rfl : t = t' := rest
      rfl
    | _ => simp [verb, keyword] at verbs
  | assign t v =>
    cases j with
    | assign t' v' =>
      rw [ValueId.text_inj marked, ValueId.text_inj (congrArg String.toList rest)]
    | _ => simp [verb, keyword] at verbs
  | branch c a b =>
    cases j with
    | branch c' a' b' => rw [lead, lead, operand_branch_inj rest]
    | _ => simp [verb, keyword] at verbs
  | isolate b e v h =>
    cases j with
    | isolate b' e' v' h' =>
      obtain rfl : e = _ := hi
      obtain rfl : e' = _ := hj
      rfl
    | _ => simp [verb, keyword] at verbs
  | leave v =>
    cases j with
    | leave v' => rw [operand_leave_inj rest]
    | _ => simp [verb, keyword] at verbs

theorem oneLine_operand (line : OneLine owner) (h : i.Shown owner n) : OneLine i.operand := by
  cases i with
  | const d v => exact h.2.oneLine
  | loadClass d c => exact h.2
  | param d k => exact .number _
  | invoke d k m r as =>
    have word : OneLine k.word := by cases k <;> decide
    have on : OneLine (receiverText r) := by
      cases r with
      | none => exact (by decide : OneLine "")
      | some r => exact (by decide : OneLine " on ").append (.value r)
    have args : OneLine (", ".intercalate (as.map ValueId.text)) :=
      .join (List.forall_mem_map.2 fun v _ => .value v)
    exact ((((((word.append (by decide)).append (h.2.oneLine line)).append on).append
      (by decide)).append args).append (by decide))
  | newInstance d c => exact h.2.append (by decide)
  | newArray d c k => exact ((h.2.append (by decide)).append (.number _)).append (by decide)
  | store a k v => exact ((OneLine.number _).append (by decide)).append (.value v)
  | declare d t => exact h.2
  | assign t v => exact .value v
  | branch c a b => exact (OneLine.value c).append (by decide)
  | isolate => exact (by decide : OneLine "")
  | leave v =>
    cases v with
    | none => decide
    | some v => exact (by decide : OneLine " ").append (.value v)

theorem oneLine_line (line : OneLine owner) (h : i.Shown owner n) : OneLine i.line := by
  have marker : '\n' ∉ i.marker := fun listed => (mem_marker listed).elim (by decide) (by decide)
  have keyword : OneLine i.keyword := oneLine_keywords _ i.mem_keywords
  rw [OneLine, toList_line, List.mem_append, List.mem_append]
  exact not_or_intro marker (not_or_intro keyword (oneLine_operand line h))

end Instruction

end Registrar
