import Registrar.Platform
import Registrar.Proofs.Listing.Quoting
import Registrar.Proofs.Listing.Rendering

/-! Reading the lines of a listing. Every line is made of the value in front, if there is one, a
keyword, and what the keyword is about; so a line tells which instruction it is of. -/
namespace Registrar

open Text

/-- The text does not go beyond its line. -/
def OneLine (s : String) : Prop := '\n' ∉ s.toList

instance (s : String) : Decidable (OneLine s) := inferInstanceAs (Decidable (_ ∉ _))

/-- A text that is written out. -/
theorem OneLine.of (l : List Char) (h : '\n' ∉ l) : OneLine (String.ofList l) := by
  rwa [OneLine, String.toList_ofList]

theorem OneLine.all (ls : List (List Char)) (h : ∀ l ∈ ls, '\n' ∉ l) :
    ∀ s ∈ ls.map String.ofList, OneLine s :=
  List.forall_mem_map.2 fun l listed => .of l (h l listed)

/-! ### Values -/

namespace ValueId

theorem toList_text (v : ValueId) : v.text.toList = '%' :: Nat.toDigits 10 v.number.toNat := by
  rw [text, String.toList_append, toList_toString]
  rfl

theorem text_append_inj {v w : ValueId} {s t : List Char} (hs : ∀ c ∈ s.head?, ¬c.isDigit)
    (ht : ∀ c ∈ t.head?, ¬c.isDigit) (same : v.text.toList ++ s = w.text.toList ++ t) :
    v = w ∧ s = t := by
  rw [toList_text, toList_text, List.cons_append, List.cons_append] at same
  obtain ⟨number, rest⟩ := number_inj hs ht (List.cons.inj same).2
  obtain ⟨v⟩ := v
  obtain ⟨w⟩ := w
  exact ⟨congrArg mk (UInt32.toNat_inj.1 number), rest⟩

theorem text_inj {v w : ValueId} (same : v.text.toList = w.text.toList) : v = w :=
  (text_append_inj (s := []) (t := []) (by simp) (by simp) (by simpa using same)).1

theorem mem_text {v : ValueId} {c : Char} (h : c ∈ v.text.toList) : c = '%' ∨ c.isDigit := by
  rw [toList_text, List.mem_cons] at h
  exact h.imp id isDigit_of_mem

theorem not_mem_text {c : Char} (h : c ≠ '%' ∧ ¬c.isDigit) (v : ValueId) : c ∉ v.text.toList :=
  fun listed => (mem_text listed).elim h.1 h.2

end ValueId

/-- Values with commas between them. -/
def argsText (args : List ValueId) : List Char :=
  [',', ' '].intercalate (args.map fun v => v.text.toList)

theorem argsText_inj {as bs : List ValueId} (same : argsText as = argsText bs) : as = bs := by
  have parts (vs : List ValueId) : ∀ x ∈ vs.map fun v => v.text.toList, x ≠ [] ∧ ',' ∉ x := by
    intro x listed
    obtain ⟨v, -, rfl⟩ := List.mem_map.1 listed
    exact ⟨by simp [ValueId.toList_text], v.not_mem_text (by decide)⟩
  have texts := join_inj (parts as) (parts bs) same
  exact List.map_injective_iff.2 (fun _ _ => ValueId.text_inj) texts

/-- The last argument ends with a digit. -/
theorem argsText_last {args : List ValueId} (h : args ≠ []) :
    ∃ front digit, argsText args = front ++ [digit] ∧ digit.isDigit := by
  induction args with
  | nil => exact absurd rfl h
  | cons v args ih =>
    rw [argsText, List.map_cons, join_cons]
    cases args with
    | nil =>
      have digits : Nat.toDigits 10 v.number.toNat ≠ [] := Nat.toDigits_ne_nil
      refine ⟨'%' :: (Nat.toDigits 10 v.number.toNat).dropLast, _, ?_,
        isDigit_of_mem (List.getLast_mem digits)⟩
      rw [List.map_nil, if_pos rfl, List.append_nil, v.toList_text, List.cons_append,
        List.dropLast_append_getLast]
    | cons w args =>
      obtain ⟨front, digit, eq, isDigit⟩ := ih (List.cons_ne_nil _ _)
      refine ⟨v.text.toList ++ ',' :: ' ' :: front, digit, ?_, isDigit⟩
      rw [if_neg (by simp)]
      change _ ++ ',' :: ([' '] ++ argsText (w :: args)) = _
      rw [eq]
      simp

/-! ### Methods -/

/-- A character of the names of types. -/
def isBare (c : Char) : Bool := 44 < c.toNat || c == '$'

/-- The name of a type, which no punctuation of a method is mistaken for. -/
def Bare (s : String) : Prop := s.toList.all isBare

theorem Bare.of (l : List Char) (h : l.all isBare = true) : Bare (String.ofList l) := by
  rwa [Bare, String.toList_ofList]

theorem Bare.not_mem {s : String} (h : Bare s) {c : Char} (other : isBare c = false) :
    c ∉ s.toList := by
  intro listed
  have := List.all_eq_true.1 h c listed
  simp_all

/-- The name of a method, which has no dots. -/
def Word (s : String) : Prop := s.toList.all fun c => 64 < c.toNat

theorem Word.of (l : List Char) (h : (l.all fun c => 64 < c.toNat) = true) :
    Word (String.ofList l) := by
  rwa [Word, String.toList_ofList]

theorem Word.not_mem {s : String} (h : Word s) {c : Char} (other : ¬64 < c.toNat) :
    c ∉ s.toList := by
  intro listed
  have letter := List.all_eq_true.1 h c listed
  exact other (of_decide_eq_true letter)

namespace MethodRef

/-- The parts of the method can be told apart where it is shown. -/
structure Plain (m : MethodRef) : Prop where
  owner : Bare m.owner
  name : Word m.name
  params : ∀ p ∈ m.params, p ≠ "" ∧ Bare p
  returns : Bare m.returns

theorem plain_methods : ∀ m ∈ Platform.methods, m.Plain := by
  have none : ∀ p ∈ ([] : List String), p ≠ "" ∧ Bare p := by simp
  simp only [Platform.methods, List.forall_mem_cons, List.not_mem_nil, false_implies, implies_true,
    and_true]
  and_intros
  all_goals
    refine ⟨.of _ rfl, .of _ rfl, ?_, .of _ rfl⟩
    repeat' first
      | exact none
      | refine List.forall_mem_cons.2 ⟨⟨by decide, .of _ rfl⟩, ?_⟩

theorem toList_text (m : MethodRef) :
    m.text.toList = m.owner.toList ++ '.' :: (m.name.toList ++ '(' ::
      ([',', ' '].intercalate (m.params.map String.toList) ++ ')' ::
        (" -> ".toList ++ m.returns.toList))) := by
  simp [text, String.toList_intercalate]

/-- A plain method is read up to the blank behind its return type. -/
theorem text_append_inj {m m' : MethodRef} (hm : m.Plain) (hm' : m'.Plain) {s t : List Char}
    (same : m.text.toList ++ ' ' :: s = m'.text.toList ++ ' ' :: t) : m = m' ∧ s = t := by
  have front {m : MethodRef} (h : m.Plain) : '(' ∉ m.owner.toList ++ '.' :: m.name.toList := by
    have owner := h.owner.not_mem (c := '(') (by decide)
    have name := h.name.not_mem (c := '(') (by decide)
    simp [owner, name]
  have params {m : MethodRef} (h : m.Plain) :
      ∀ x ∈ m.params.map String.toList, (x ≠ [] ∧ ',' ∉ x) ∧ ')' ∉ x := by
    intro x listed
    obtain ⟨p, hp, rfl⟩ := List.mem_map.1 listed
    obtain ⟨filled, bare⟩ := h.params p hp
    exact ⟨⟨by simpa using filled, bare.not_mem (by decide)⟩, bare.not_mem (by decide)⟩
  have joined {m : MethodRef} (h : m.Plain) :
      ')' ∉ [',', ' '].intercalate (m.params.map String.toList) :=
    not_mem_join (by decide) fun x listed => (params h x listed).2
  have cut (m : MethodRef) (s : List Char) : m.text.toList ++ s =
      (m.owner.toList ++ '.' :: m.name.toList) ++ '(' ::
        ([',', ' '].intercalate (m.params.map String.toList) ++ ')' ::
          (" -> ".toList ++ (m.returns.toList ++ s))) := by
    simp [toList_text]
  rw [cut, cut] at same
  obtain ⟨named, rest⟩ := cut_inj (front hm) (front hm') same
  obtain ⟨owner, name⟩ :=
    cut_last_inj (hm.name.not_mem (by decide)) (hm'.name.not_mem (by decide)) named
  obtain ⟨texts, rest⟩ := cut_inj (joined hm) (joined hm') rest
  have listed := join_inj (fun x h => (params hm x h).1) (fun x h => (params hm' x h).1) texts
  obtain ⟨returns, rfl⟩ := cut_inj (hm.returns.not_mem (by decide))
    (hm'.returns.not_mem (by decide)) (List.append_cancel_left rest)
  refine ⟨?_, rfl⟩
  obtain ⟨o, n, ps, r⟩ := m
  obtain ⟨o', n', ps', r'⟩ := m'
  congr
  · exact String.toList_inj.1 owner
  · exact String.toList_inj.1 name
  · exact List.map_injective_iff.2 (fun _ _ => String.toList_inj.1) listed
  · exact String.toList_inj.1 returns

end MethodRef

/-! ### Instructions -/

/-- The receiver of a call, if it has one. -/
def receiverText : Option ValueId → String
  | some r => " on " ++ r.text
  | none => ""

theorem invocationText_eq (kind : InvokeKind) (m : MethodRef) (r : Option ValueId)
    (args : List ValueId) :
    invocationText kind m r args = "invoke " ++ kind.word ++ " " ++ m.text ++ receiverText r ++ " (" ++
      ", ".intercalate (args.map ValueId.text) ++ ")" := by
  cases r <;> rfl

namespace Instruction

/-- The value in front of the keyword. -/
def marker : Instruction → List Char
  | const d _ => d.text.toList
  | loadClass d _ => d.text.toList
  | param d _ => d.text.toList
  | invoke d _ m _ _ => if m.returnsValue then d.text.toList else []
  | newInstance d _ => d.text.toList
  | newArray d _ _ => d.text.toList
  | store a _ _ => a.text.toList
  | declare d _ => d.text.toList
  | assign t _ => t.text.toList
  | branch .. => []
  | isolate .. => []
  | leave _ => []

def keyword : Instruction → String
  | const .. => " = const "
  | loadClass .. => " = class "
  | param .. => " = param "
  | invoke _ _ m _ _ => if m.returnsValue then " = invoke " else "invoke "
  | newInstance .. => " = new "
  | newArray .. => " = new "
  | store .. => "["
  | declare .. => " = var "
  | assign .. => " := "
  | branch .. => "if "
  | isolate .. => "try \x7b"
  | leave _ => "return"

/-- What the keyword is about. -/
def operand : Instruction → String
  | const _ v => v.text
  | loadClass _ c => c
  | param _ i => toString i.toNat
  | invoke _ k m r as =>
    k.word ++ " " ++ m.text ++ receiverText r ++ " (" ++
      ", ".intercalate (as.map ValueId.text) ++ ")"
  | newInstance _ c => c ++ "()"
  | newArray _ c n => c ++ "[" ++ toString n.toNat ++ "]"
  | store _ i v => toString i.toNat ++ "] = " ++ v.text
  | declare _ t => t
  | assign _ v => v.text
  | branch c _ _ => c.text ++ " \x7b"
  | isolate .. => ""
  | leave (some v) => " " ++ v.text
  | leave none => ""

def keywords : List String :=
  [" = const ", " = class ", " = param ", " = invoke ", "invoke ", " = new ", "[", " = var ", " := ",
    "if ", "try \x7b", "return"]

theorem toList_line (i : Instruction) :
    i.line.toList = i.marker ++ (i.keyword.toList ++ i.operand.toList) := by
  cases i with
  | invoke d k m r as =>
    have glued : " = invoke " = " = " ++ "invoke " := rfl
    cases value : m.returnsValue <;>
      simp only [line, marker, keyword, operand, invocationText_eq, value, glued, if_true, if_false,
        Bool.false_eq_true, String.empty_append, String.toList_append, List.append_assoc,
        List.nil_append]
  | leave v => cases v <;> simp [line, marker, keyword, operand]
  | _ => simp [line, marker, keyword, operand]

theorem mem_marker {i : Instruction} {c : Char} (h : c ∈ i.marker) : c = '%' ∨ c.isDigit := by
  cases i with
  | branch | isolate | leave => cases h
  | invoke d k m r as =>
    rw [marker] at h
    split at h
    · exact ValueId.mem_text h
    · cases h
  | _ => exact ValueId.mem_text h

theorem mem_keywords (i : Instruction) : i.keyword ∈ keywords := by
  cases i with
  | invoke d k m r as =>
    rw [keyword]
    split <;> simp [keywords]
  | _ => simp [keyword, keywords]

/-- No keyword is mistaken for another, or for a value in front of it. -/
theorem keywords_apart : (∀ k ∈ keywords, ∀ l ∈ keywords, k.toList <+: l.toList → k = l) ∧
    ∀ k ∈ keywords, ∃ c ∈ k.toList.head?, ¬(c = '%' ∨ c.isDigit) := by
  have chars (ks : List (List Char)) (apart : ∀ k ∈ ks, ∀ l ∈ ks, k <+: l → k = l)
      (heads : ∀ k ∈ ks, k.head?.any fun c => !(c == '%' || c.isDigit)) :
      (∀ k ∈ ks.map String.ofList, ∀ l ∈ ks.map String.ofList, k.toList <+: l.toList → k = l) ∧
        ∀ k ∈ ks.map String.ofList, ∃ c ∈ k.toList.head?, ¬(c = '%' ∨ c.isDigit) := by
    simp only [List.forall_mem_map, String.toList_ofList]
    refine ⟨fun k hk l hl h => congrArg _ (apart k hk l hl h), fun k hk => ?_⟩
    obtain ⟨c, first, other⟩ := Option.any_eq_true _ _ |>.1 (heads k hk)
    exact ⟨c, first, by simpa using other⟩
  exact chars [_, _, _, _, _, _, _, _, _, _, _, _] (by decide) (by decide)

theorem oneLine_keywords : ∀ k ∈ keywords, OneLine k :=
  OneLine.all [_, _, _, _, _, _, _, _, _, _, _, _] (by decide)

theorem line_inj {i j : Instruction} (same : i.line = j.line) :
    i.marker = j.marker ∧ i.keyword = j.keyword ∧ i.operand = j.operand := by
  have stops (i : Instruction) :
      ∀ c ∈ (i.keyword.toList ++ i.operand.toList).head?, ¬(c = '%' ∨ c.isDigit) := by
    obtain ⟨c, first, other⟩ := keywords_apart.2 _ i.mem_keywords
    rw [List.head?_append_of_ne_nil _ (by rintro h; simp [h] at first)]
    intro c' first'
    rwa [← Option.mem_unique first first']
  have lines := congrArg String.toList same
  rw [toList_line, toList_line] at lines
  obtain ⟨marked, rest⟩ :=
    span_inj (fun _ => mem_marker) (fun _ => mem_marker) (stops i) (stops j) lines
  have keywords : i.keyword = j.keyword := by
    obtain shorter | longer := List.prefix_or_prefix_of_prefix ⟨_, rest⟩ ⟨_, rfl⟩
    · exact keywords_apart.1 _ i.mem_keywords _ j.mem_keywords shorter
    · exact (keywords_apart.1 _ j.mem_keywords _ i.mem_keywords longer).symm
  rw [keywords] at rest
  exact ⟨marked, keywords, String.toList_inj.1 (List.append_cancel_left rest)⟩

end Instruction

end Registrar
