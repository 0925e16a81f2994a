import Mathlib.Data.List.Basic

/-!
# Escapes that begin with a lead symbol

A table gives some symbols a code.  Every code is the lead symbol and then
symbols other than it, the lead symbol has a code itself, and no code begins
another one.  A word in which every symbol with a code is replaced by it is
read back from left to right: where the rest begins with a code, its symbol
stands there, and any other symbol stands for itself.
-/

namespace WeatherNotify.Coding

universe u

structure EscapeTable (Symbol : Type u) [DecidableEq Symbol] where
  lead : Symbol
  codes : List (Symbol × List Symbol)
  leads : ∀ entry ∈ codes, entry.2.head? = some lead ∧ lead ∉ entry.2.tail
  prefixFree : ∀ left ∈ codes, ∀ right ∈ codes,
    left.2 <+: right.2 → left = right
  escapesLead : lead ∈ codes.map Prod.fst

namespace EscapeTable

variable {Symbol : Type u} [DecidableEq Symbol] (table : EscapeTable Symbol)

/-- The code of a symbol, or the symbol itself. -/
def code (symbol : Symbol) : List Symbol :=
  (table.codes.lookup symbol).getD [symbol]

def escape (word : List Symbol) : List Symbol :=
  word.flatMap table.code

/-- The entry whose code the word begins with. -/
def read (word : List Symbol) : Option (Symbol × List Symbol) :=
  table.codes.find? fun entry => entry.2.isPrefixOf word

/-- Reading from left to right; the first symbols may belong to the last code. -/
def unescapeAfter : Nat → List Symbol → List Symbol
  | _, [] => []
  | skipped + 1, _ :: rest => unescapeAfter skipped rest
  | 0, symbol :: rest =>
      match table.read (symbol :: rest) with
      | some entry => entry.1 :: unescapeAfter (entry.2.length - 1) rest
      | none => symbol :: unescapeAfter 0 rest

def unescape (word : List Symbol) : List Symbol :=
  table.unescapeAfter 0 word

variable {table} {symbol : Symbol} {word before after : List Symbol}

/-! ## Codes -/

/-- A symbol stands as the code of its entry, or has none and stays. -/
theorem code_cases (table : EscapeTable Symbol) (symbol : Symbol) :
    (∃ entry ∈ table.codes, entry.1 = symbol ∧ table.code symbol = entry.2) ∨
      symbol ∉ table.codes.map Prod.fst ∧ table.code symbol = [symbol] := by
  cases found : table.codes.lookup symbol with
  | none =>
      right
      rw [List.lookup_eq_none_iff] at found
      refine ⟨?_, by rw [code, List.lookup_eq_none_iff.mpr found]; rfl⟩
      rintro member
      rcases List.mem_map.mp member with ⟨entry, entryMember, rfl⟩
      simpa using found entry entryMember
  | some coded =>
      left
      have located := List.lookup_eq_some_iff.mp found
      rcases located with ⟨front, back, split, _⟩
      refine ⟨(symbol, coded), ?_, rfl, by rw [code, found]; rfl⟩
      rw [split]
      exact List.mem_append_right _ List.mem_cons_self

theorem eq_lead_cons {entry : Symbol × List Symbol}
    (member : entry ∈ table.codes) :
    ∃ tail, entry.2 = table.lead :: tail ∧ table.lead ∉ tail := by
  rcases table.leads entry member with ⟨head, alone⟩
  refine ⟨entry.2.tail, ?_, alone⟩
  exact (List.cons_head?_tail head).symm

/-- A word begins with the code of one entry at most. -/
theorem entry_unique {left right : Symbol × List Symbol}
    (leftMember : left ∈ table.codes) (rightMember : right ∈ table.codes)
    (leftBegins : left.2 <+: word) (rightBegins : right.2 <+: word) :
    left = right := by
  rcases List.prefix_or_prefix_of_prefix leftBegins rightBegins with
    shorter | longer
  · exact table.prefixFree left leftMember right rightMember shorter
  · exact (table.prefixFree right rightMember left leftMember longer).symm

theorem read_of_begins {entry : Symbol × List Symbol}
    (member : entry ∈ table.codes) (begins : entry.2 <+: word) :
    table.read word = some entry := by
  cases found : table.read word with
  | none =>
      have refused := List.find?_eq_none.mp found entry member
      exact absurd (List.isPrefixOf_iff_prefix.mpr begins) refused
  | some other =>
      have accepted : other.2.isPrefixOf word = true := by
        have passes := List.find?_some found
        exact passes
      have otherBegins := List.isPrefixOf_iff_prefix.mp accepted
      rw [entry_unique (List.mem_of_find?_eq_some found) member otherBegins
        begins]

theorem read_of_ne_lead (plain : symbol ≠ table.lead) :
    table.read (symbol :: word) = none := by
  rw [read, List.find?_eq_none]
  intro entry member begins
  rcases eq_lead_cons member with ⟨tail, shape, _⟩
  rw [List.isPrefixOf_iff_prefix, shape, List.cons_prefix_cons] at begins
  exact plain begins.1.symm

theorem ne_lead_of_uncoded (uncoded : symbol ∉ table.codes.map Prod.fst) :
    symbol ≠ table.lead := by
  rintro rfl
  exact uncoded table.escapesLead

/-! ## Reading an escaped word back -/

theorem escape_cons (table : EscapeTable Symbol) (symbol : Symbol)
    (word : List Symbol) :
    table.escape (symbol :: word) = table.code symbol ++ table.escape word :=
  List.flatMap_cons

theorem unescapeAfter_append (skipped : List Symbol) :
    table.unescapeAfter skipped.length (skipped ++ word) =
      table.unescape word := by
  induction skipped with
  | nil => rfl
  | cons _ skipped induction => exact induction

/-- A code in front of any rest is read as its symbol. -/
theorem unescape_code_append (table : EscapeTable Symbol) (symbol : Symbol)
    (rest : List Symbol) :
    table.unescape (table.code symbol ++ rest) =
      symbol :: table.unescape rest := by
  rcases table.code_cases symbol with ⟨entry, member, rfl, coded⟩ |
    ⟨uncoded, plain⟩
  · rcases eq_lead_cons member with ⟨tail, shape, _⟩
    have reads : table.read (table.lead :: (tail ++ rest)) = some entry := by
      apply read_of_begins member
      rw [shape, List.cons_prefix_cons]
      exact ⟨rfl, List.prefix_append tail rest⟩
    rw [coded, shape, List.cons_append, unescape, unescapeAfter, reads]
    show entry.1 :: table.unescapeAfter (entry.2.length - 1) (tail ++ rest) = _
    rw [shape, List.length_cons, Nat.add_sub_cancel, unescapeAfter_append]
  · rw [plain, List.singleton_append, unescape, unescapeAfter,
      read_of_ne_lead (ne_lead_of_uncoded uncoded)]
    rfl

theorem unescape_escape (table : EscapeTable Symbol) (word : List Symbol) :
    table.unescape (table.escape word) = word := by
  induction word with
  | nil => rfl
  | cons symbol word induction =>
      rw [escape_cons, unescape_code_append, induction]

/-! ## What an escaped word contains -/

/-- A symbol with a code is gone, unless a code contains it. -/
theorem not_mem_escape (coded : symbol ∈ table.codes.map Prod.fst)
    (absent : ∀ entry ∈ table.codes, symbol ∉ entry.2) :
    symbol ∉ table.escape word := by
  intro member
  rcases List.mem_flatMap.mp member with ⟨source, _, inCode⟩
  rcases table.code_cases source with ⟨entry, entryMember, _, same⟩ |
    ⟨uncoded, plain⟩
  · exact absent entry entryMember (same ▸ inCode)
  · rw [plain, List.mem_singleton] at inCode
    exact uncoded (inCode ▸ coded)

/-- In the code of a symbol the lead symbol only stands in front. -/
theorem entry_of_lead_mem_code
    (split : table.code symbol = before ++ table.lead :: after) :
    ∃ entry ∈ table.codes, entry.2 = table.lead :: after := by
  rcases table.code_cases symbol with ⟨entry, member, _, coded⟩ |
    ⟨uncoded, plain⟩
  · rcases eq_lead_cons member with ⟨tail, shape, alone⟩
    rw [coded, shape] at split
    cases before with
    | nil => exact ⟨entry, member, shape.trans split⟩
    | cons first before =>
        have inTail : table.lead ∈ tail := by
          rw [(List.cons.inj split).2]
          exact List.mem_append_right _ List.mem_cons_self
        exact absurd inTail alone
  · have same : table.lead ∈ [symbol] := by
      rw [← plain, split]
      exact List.mem_append_right _ List.mem_cons_self
    exact absurd (List.mem_singleton.mp same).symm (ne_lead_of_uncoded uncoded)

/-- Every lead symbol of an escaped word begins a code. -/
theorem lead_begins_code
    (split : table.escape word = before ++ table.lead :: after) :
    ∃ entry ∈ table.codes, entry.2 <+: table.lead :: after := by
  induction word generalizing before with
  | nil =>
      have member : table.lead ∈ table.escape [] := by
        rw [split]
        exact List.mem_append_right _ List.mem_cons_self
      cases member
  | cons symbol word induction =>
      rw [escape_cons] at split
      rcases List.append_eq_append_iff.mp split with
        ⟨skipped, _, later⟩ | ⟨inside, coded, rest⟩
      · exact induction later
      · cases inside with
        | nil =>
            have here : table.escape word = [] ++ table.lead :: after :=
              rest.symm
            exact induction here
        | cons first inside =>
            rcases List.cons.inj rest with ⟨rfl, tail⟩
            rcases entry_of_lead_mem_code coded with ⟨entry, member, shape⟩
            refine ⟨entry, member, ?_⟩
            rw [shape, tail, List.cons_prefix_cons]
            exact ⟨rfl, List.prefix_append inside _⟩

end EscapeTable

end WeatherNotify.Coding
