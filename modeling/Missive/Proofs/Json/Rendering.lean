import Missive.Json.Value
import Missive.Proofs.Json.Numbers

/-! JSON values come back from their compact form: its characters are scanned into the tokens that
were rendered, and these are read as the value. -/

namespace Missive.Json

/-! ### Scanning -/

namespace Token

/-- The characters are scanned into the tokens. -/
def Scans (cs : List Char) (ts : List Token) : Prop := ∀ n, cs.length ≤ n → scanWithin n cs = some ts

theorem scans_nil : Scans [] [] := fun n _ => by cases n <;> rfl

theorem Scans.cons {t : Token} {cs : List Char} {ts : List Token} (h : Scans cs ts)
    (ht : t.Told cs) : Scans (t.render ++ cs) (t :: ts) := by
  obtain ⟨c, more, hrender, hspace, hfirst⟩ := ht
  intro n hn
  rw [hrender, List.cons_append] at hn ⊢
  cases n with
  | zero => cases hn
  | succ n =>
    have hrest : cs.length ≤ n := by
      simp only [List.length_cons, List.length_append] at hn
      omega
    simp [scanWithin, hspace, hfirst, h n hrest]

/-- Punctuation marks and fixed words. -/
theorem told_word {t : Token} (rest : List Char)
    (h : t ∈ [openBrace, closeBrace, openBracket, closeBracket, comma, colon, null, true, false,
      unpaired]) : t.Told rest := by
  simp only [List.mem_cons, List.not_mem_nil, or_false] at h
  rcases h with rfl | rfl | rfl | rfl | rfl | rfl | rfl | rfl | rfl | rfl <;>
    exact ⟨_, _, rfl, rfl, rfl⟩

theorem told_key (key : Option String) (rest : List Char) :
    (key.elim unpaired string : Token).Told rest := by
  cases key with
  | none => exact told_word rest (by simp)
  | some s => exact told_string s rest

/-- In front of characters that are scanned, the rendered tokens are scanned as well. -/
def ScansBack (ts : List Token) : Prop :=
  ∀ {cs us}, Ends cs → Scans cs us → Scans (ts.flatMap render ++ cs) (ts ++ us)

theorem scansBack_singleton {t : Token} (h : ∀ {rest}, Ends rest → t.Told rest) :
    ScansBack [t] := by
  intro cs us hends hcs
  rw [List.flatMap_singleton]
  exact hcs.cons (h hends)

end Token

namespace Value

/-- A value whose numbers are integers. -/
inductive Integral : Value → Prop
  | null : Integral null
  | bool (b : Bool) : Integral (bool b)
  | integer (i : Int) : Integral (integer i)
  | string (s : String) : Integral (string s)
  | unpaired : Integral unpaired
  | array {items : List Value} : (∀ v ∈ items, Integral v) → Integral (array items)
  | object {members : List (Option String × Value)} :
    (∀ m ∈ members, Integral m.2) → Integral (object members)

theorem scansBack_items {items : List Value} (h : ∀ v ∈ items, Token.ScansBack v.tokens) :
    Token.ScansBack (itemTokens items) := by
  intro cs us hends hcs
  induction items with
  | nil => exact hcs
  | cons v rest ih =>
    obtain ⟨hv, hrest⟩ := List.forall_mem_cons.1 h
    cases rest with
    | nil => exact hv hends hcs
    | cons w rest =>
      have hmore := (ih hrest).cons (Token.told_word (t := .comma) _ (by simp))
      have hfirst := hv (.comma _) hmore
      simpa [itemTokens, Token.render] using hfirst

theorem scansBack_members {members : List (Option String × Value)}
    (h : ∀ m ∈ members, Token.ScansBack m.2.tokens) :
    Token.ScansBack (memberTokens members) := by
  intro cs us hends hcs
  have hmember (key : Option String) {cs us} (h : Token.Scans cs us) :
      Token.Scans ((key.elim Token.unpaired .string).render ++ (Token.colon.render ++ cs))
        (key.elim .unpaired .string :: .colon :: us) :=
    .cons (.cons h (Token.told_word _ (by simp))) (Token.told_key key _)
  induction members with
  | nil => exact hcs
  | cons m rest ih =>
    obtain ⟨hm, hrest⟩ := List.forall_mem_cons.1 h
    cases rest with
    | nil => simpa [memberTokens] using hmember m.1 (hm hends hcs)
    | cons m' rest =>
      have hmore := (ih hrest).cons (Token.told_word (t := .comma) _ (by simp))
      have hfirst := hmember m.1 (hm (.comma _) hmore)
      simpa [memberTokens, Token.render] using hfirst

/-- The compact form of a value is scanned into its tokens. -/
theorem Integral.scansBack {v : Value} (h : v.Integral) : Token.ScansBack v.tokens := by
  induction h with
  | null => exact Token.scansBack_singleton fun _ => Token.told_word _ (by simp)
  | bool b => cases b <;> exact Token.scansBack_singleton fun _ => Token.told_word _ (by simp)
  | integer i => exact Token.scansBack_singleton (Token.told_integer i)
  | string s => exact Token.scansBack_singleton fun _ => Token.told_string s _
  | unpaired => exact Token.scansBack_singleton fun _ => Token.told_word _ (by simp)
  | array _ ih =>
    intro cs us _ hcs
    have hclose := hcs.cons (Token.told_word (t := .closeBracket) _ (by simp))
    have hitems := (scansBack_items ih (.closeBracket _) hclose).cons
      (Token.told_word (t := .openBracket) _ (by simp))
    simpa [tokens, Token.render] using hitems
  | object _ ih =>
    intro cs us _ hcs
    have hclose := hcs.cons (Token.told_word (t := .closeBrace) _ (by simp))
    have hmembers := (scansBack_members ih (.closeBrace _) hclose).cons
      (Token.told_word (t := .openBrace) _ (by simp))
    simpa [tokens, Token.render] using hmembers

theorem Integral.scan?_render {v : Value} (h : v.Integral) :
    Token.scan? v.render.toList = some v.tokens := by
  have hscans := h.scansBack .nil Token.scans_nil
  rw [List.append_nil, List.append_nil] at hscans
  rw [render, String.toList_ofList]
  exact hscans _ (Nat.le_refl _)

/-! ### Reading -/

/-- What has no more tokens than can be read within `n` steps is read back from them. -/
structure ReadsWithin (n : Nat) : Prop where
  value : ∀ {v rest}, 2 * (tokens v).length ≤ n → readValue n (v.tokens ++ rest) = some (v, rest)
  items : ∀ {v vs rest}, 2 * (itemTokens (v :: vs)).length + 1 ≤ n →
    readItems n (itemTokens (v :: vs) ++ .closeBracket :: rest) = some (v :: vs, rest)
  members : ∀ {m ms rest}, 2 * (memberTokens (m :: ms)).length + 1 ≤ n →
    readMembers n (memberTokens (m :: ms) ++ .closeBrace :: rest) = some (m :: ms, rest)

/-- A value starts with a token that closes nothing. -/
theorem exists_tokens (v : Value) :
    ∃ t ts, v.tokens = t :: ts ∧ t ≠ .closeBracket ∧ t ≠ .closeBrace := by
  cases v with
  | bool b => cases b <;> exact ⟨_, _, rfl, nofun, nofun⟩
  | null | integer | decimal | string | unpaired | array | object =>
    exact ⟨_, _, rfl, nofun, nofun⟩

theorem readValue_array (n : Nat) (v : Value) (vs : List Value) (rest : List Token) :
    readValue (n + 1) (.openBracket :: (itemTokens (v :: vs) ++ rest)) =
      (readItems n (itemTokens (v :: vs) ++ rest)).map fun p => (array p.1, p.2) := by
  obtain ⟨t, ts, hts, ht, -⟩ := exists_tokens v
  obtain ⟨us, hus⟩ : ∃ us, itemTokens (v :: vs) ++ rest = t :: us := by
    cases vs <;> exact ⟨_, by rw [itemTokens, hts]; rfl⟩
  rw [hus, readValue]
  exact fun _ h => ht (List.cons.inj h).1

theorem readValue_object (n : Nat) (m : Option String × Value)
    (ms : List (Option String × Value)) (rest : List Token) :
    readValue (n + 1) (.openBrace :: (memberTokens (m :: ms) ++ rest)) =
      (readMembers n (memberTokens (m :: ms) ++ rest)).map fun p => (object p.1, p.2) := by
  obtain ⟨us, hus⟩ : ∃ us, memberTokens (m :: ms) ++ rest =
      m.1.elim .unpaired .string :: us := by
    cases ms <;> exact ⟨_, rfl⟩
  rw [hus, readValue]
  intro _ h
  cases hkey : m.1 <;> rw [hkey] at h <;> cases (List.cons.inj h).1

namespace ReadsWithin

variable {n : Nat}

theorem value_step (h : ReadsWithin n) {v : Value} {rest : List Token}
    (hn : 2 * v.tokens.length ≤ n + 1) : readValue (n + 1) (v.tokens ++ rest) = some (v, rest) := by
  cases v with
  | bool b => cases b <;> rfl
  | null | integer | decimal | string | unpaired => rfl
  | array items =>
    cases items with
    | nil => rfl
    | cons v vs =>
      simp only [tokens, List.length_cons, List.length_append, List.cons_append,
        List.append_assoc] at hn ⊢
      rw [readValue_array, h.items (by omega)]
      rfl
  | object members =>
    cases members with
    | nil => rfl
    | cons m ms =>
      simp only [tokens, List.length_cons, List.length_append, List.cons_append,
        List.append_assoc] at hn ⊢
      rw [readValue_object, h.members (by omega)]
      rfl

theorem items_step (h : ReadsWithin n) {v : Value} {vs : List Value} {rest : List Token}
    (hn : 2 * (itemTokens (v :: vs)).length + 1 ≤ n + 1) :
    readItems (n + 1) (itemTokens (v :: vs) ++ .closeBracket :: rest) = some (v :: vs, rest) := by
  cases vs with
  | nil =>
    rw [itemTokens] at hn ⊢
    rw [readItems, h.value (by omega)]
    rfl
  | cons w vs =>
    simp only [itemTokens, List.length_cons, List.length_append, List.cons_append,
      List.append_assoc] at hn ⊢
    rw [readItems, h.value (by omega)]
    simp only [Option.bind_eq_bind, Option.bind_some]
    rw [h.items (by omega)]
    rfl

theorem members_step (h : ReadsWithin n) {m : Option String × Value}
    {ms : List (Option String × Value)} {rest : List Token}
    (hn : 2 * (memberTokens (m :: ms)).length + 1 ≤ n + 1) :
    readMembers (n + 1) (memberTokens (m :: ms) ++ .closeBrace :: rest) = some (m :: ms, rest) := by
  obtain ⟨key, v⟩ := m
  have hkey : keyOf? (key.elim .unpaired .string) = some key := by cases key <;> rfl
  cases ms with
  | nil =>
    simp only [memberTokens, List.length_cons, List.cons_append] at hn ⊢
    rw [readMembers, hkey, h.value (by omega)]
    rfl
  | cons m' ms =>
    simp only [memberTokens, List.length_cons, List.length_append, List.cons_append,
      List.append_assoc] at hn ⊢
    rw [readMembers, hkey, h.value (by omega)]
    simp only [Option.bind_eq_bind, Option.bind_some]
    rw [h.members (by omega)]
    rfl

end ReadsWithin

theorem readsWithin (n : Nat) : ReadsWithin n := by
  induction n with
  | zero =>
    refine ⟨fun {v _} hn => ?_, fun hn => by omega, fun hn => by omega⟩
    obtain ⟨t, ts, hts, -⟩ := exists_tokens v
    rw [hts, List.length_cons] at hn
    omega
  | succ n ih => exact ⟨ih.value_step, ih.items_step, ih.members_step⟩

/-- A value is read back from its compact form. -/
theorem parse?_render {v : Value} (h : v.Integral) : parse? v.render = some v := by
  have hread : readValue (2 * v.tokens.length) (v.tokens ++ []) = some (v, []) :=
    (readsWithin _).value (Nat.le_refl _)
  rw [List.append_nil] at hread
  rw [parse?, h.scan?_render]
  change ofTokens? v.tokens = some v
  rw [ofTokens?, hread]

theorem parse?_render_texts (texts : List String) :
    parse? (array (texts.map .string)).render = some (array (texts.map .string)) := by
  refine parse?_render (.array fun v hv => ?_)
  obtain ⟨s, -, rfl⟩ := List.mem_map.1 hv
  exact .string s

end Value
end Missive.Json
