import AiEnterpriseOs.Library.TextLines
import AiEnterpriseOs.Library.TextSearch

/-!
# The host allowlist

Only loopback names may stand in a `Host` header. The check cuts the header at
its first `:` or `]` and looks at what stands before it.
-/

namespace AiEnterpriseOs.Api

open Library

def allowedHosts : List (List Char) :=
  ["127.0.0.1".toList, "localhost".toList, "::1".toList, "[::1]".toList]

section

-- `str.lower`, which no result here depends on
variable (lower : List Char → List Char)

def hostAllowed (host : List Char) : Bool :=
  let host := lower (TextLines.strip host)
  if host = [] then false
  else if ['['].isPrefixOf host then
    decide (TextSplit.firstPart ']' host ++ [']'] ∈ allowedHosts)
  else decide (TextSplit.firstPart ':' host ∈ allowedHosts)

end

/-- A port is a non-empty string of decimal digits. -/
def Port (text : List Char) : Prop :=
  text ≠ [] ∧ text.all Char.isDigit = true

instance (text : List Char) : Decidable (Port text) :=
  inferInstanceAs (Decidable (_ ∧ _))

/-- The names that may carry a port. -/
def portHosts : List (List Char) :=
  ["127.0.0.1".toList, "localhost".toList, "[::1]".toList]

def dottedHosts : List (List Char) :=
  ["127.0.0.1".toList, "localhost".toList]

/-- What the allowlist is for: a listed name, with a port or without. -/
def Listed (host : List Char) : Prop :=
  host ∈ allowedHosts ∨ ∃ name ∈ portHosts, ∃ port, Port port ∧ host = name ++ ':' :: port

/-- A header that is not the bare IPv6 name or the bracketed name without its
bracket, and whose bracketed or dotted name is followed by nothing or a port. -/
structure WellEnded (host : List Char) : Prop where
  notBare : host ≠ "::1".toList
  closed : host ≠ "[::1".toList
  bracketed : ∀ rest, host = "[::1]".toList ++ rest →
    rest = [] ∨ ∃ port, rest = ':' :: port ∧ Port port
  named : ∀ name ∈ dottedHosts, ∀ rest, host = name ++ ':' :: rest → Port rest

/-- What the check lets through. -/
def Admitted (host : List Char) : Prop :=
  (host = "[::1".toList ∨ ∃ rest, host = "[::1]".toList ++ rest) ∨
    ∃ name ∈ dottedHosts, host = name ∨ ∃ rest, host = name ++ ':' :: rest

theorem bracketed_part_iff (host : List Char) :
    TextSplit.firstPart ']' ('[' :: host) ++ [']'] ∈ allowedHosts ↔
      '[' :: host = "[::1".toList ∨ ∃ rest, '[' :: host = "[::1]".toList ++ rest := by
  have head : TextSplit.firstPart ']' ('[' :: host) = '[' :: TextSplit.firstPart ']' host := rfl
  have closing : "[::1]".toList = "[::1".toList ++ [']'] := rfl
  have part : TextSplit.firstPart ']' ('[' :: host) ++ [']'] ∈ allowedHosts ↔
      TextSplit.firstPart ']' ('[' :: host) = "[::1".toList := by
    rw [← List.append_left_inj [']'], ← closing, head]
    simp [allowedHosts]
  rw [part, TextSplit.first_part_eq_iff (by decide)]
  simp

theorem plain_part_iff (host : List Char) : TextSplit.firstPart ':' host ∈ allowedHosts ↔
      ∃ name ∈ dottedHosts, host = name ∨ ∃ rest, host = name ++ ':' :: rest := by
  have noColon : ∀ name, ':' ∈ name → TextSplit.firstPart ':' host ≠ name := by
    intro name member same
    rw [← same] at member
    exact TextSplit.separator_not_mem_first_part ':' host member
  have named : TextSplit.firstPart ':' host ∈ allowedHosts ↔
      ∃ name ∈ dottedHosts, TextSplit.firstPart ':' host = name := by
    have bare := noColon "::1".toList (by decide)
    have bracketed := noColon "[::1]".toList (by decide)
    simp only [allowedHosts, dottedHosts, List.mem_cons, List.not_mem_nil, or_false, bare,
      bracketed, exists_eq_right']
  have absent : ∀ name ∈ dottedHosts, ':' ∉ name := by decide
  rw [named]
  apply exists_congr
  intro name
  apply and_congr_right
  intro member
  exact TextSplit.first_part_eq_iff (absent name member) host

theorem dotted_no_bracket {name : List Char} (member : name ∈ dottedHosts) (host rest : List Char) :
    '[' :: host ≠ name ++ rest := by
  simp only [dottedHosts, List.mem_cons, List.not_mem_nil, or_false] at member
  rcases member with rfl | rfl <;> simp

theorem host_allowed_iff (lower : List Char → List Char) (host : List Char) :
    hostAllowed lower host = true ↔ Admitted (lower (TextLines.strip host)) := by
  unfold hostAllowed Admitted
  generalize lower (TextLines.strip host) = text
  cases text with
  | nil => simp [dottedHosts]
  | cons char rest =>
    by_cases bracket : char = '['
    · have plain : ¬ ∃ name ∈ dottedHosts, '[' :: rest = name ∨
          ∃ tail, '[' :: rest = name ++ ':' :: tail := by
        rintro ⟨name, member, same | ⟨tail, same⟩⟩
        · rw [← List.append_nil name] at same
          exact dotted_no_bracket member rest [] same
        · exact dotted_no_bracket member rest (':' :: tail) same
      rw [bracket, iff_false_intro plain, or_false, ← bracketed_part_iff]
      simp
    · have bracketed : ¬ (char :: rest = "[::1".toList ∨
          ∃ tail, char :: rest = "[::1]".toList ++ tail) := by
        simp [bracket]
      have front : ['['].isPrefixOf (char :: rest) = false := by
        simp [List.isPrefixOf, Ne.symm bracket]
      rw [iff_false_intro bracketed, false_or, ← plain_part_iff]
      simp [front]

theorem listed_bracketed_iff (rest : List Char) :
    Listed ("[::1]".toList ++ rest) ↔ rest = [] ∨ ∃ port, rest = ':' :: port ∧ Port port := by
  have name : "[::1]".toList = ['[', ':', ':', '1', ']'] := rfl
  have first : "127.0.0.1".toList = '1' :: "27.0.0.1".toList := rfl
  have second : "localhost".toList = 'l' :: "ocalhost".toList := rfl
  have third : "::1".toList = [':', ':', '1'] := rfl
  simp only [Listed, allowedHosts, portHosts, name, first, second, third, and_comm]
  simp

theorem listed_named_iff {name : List Char} (member : name ∈ dottedHosts) (rest : List Char) :
    Listed (name ++ ':' :: rest) ↔ Port rest := by
  simp only [dottedHosts, List.mem_cons, List.not_mem_nil, or_false] at member
  rcases member with rfl | rfl <;> simp [Listed, allowedHosts, portHosts]

theorem listed_of_dotted {name : List Char} (member : name ∈ dottedHosts) : Listed name := by
  have subset : dottedHosts ⊆ allowedHosts := by decide
  exact .inl (subset member)

theorem admitted_of_listed {host : List Char} (notBare : host ≠ "::1".toList)
    (listed : Listed host) : Admitted host := by
  rcases listed with member | ⟨name, member, port, _, rfl⟩
  · simp only [allowedHosts, List.mem_cons, List.not_mem_nil, or_false] at member
    rcases member with rfl | rfl | rfl | rfl
    · exact .inr ⟨_, List.mem_cons_self, .inl rfl⟩
    · exact .inr ⟨_, List.mem_cons_of_mem _ List.mem_cons_self, .inl rfl⟩
    · exact absurd rfl notBare
    · exact .inl (.inr ⟨[], rfl⟩)
  · simp only [portHosts, List.mem_cons, List.not_mem_nil, or_false] at member
    rcases member with rfl | rfl | rfl
    · exact .inr ⟨_, List.mem_cons_self, .inr ⟨port, rfl⟩⟩
    · exact .inr ⟨_, List.mem_cons_of_mem _ List.mem_cons_self, .inr ⟨port, rfl⟩⟩
    · exact .inl (.inr ⟨':' :: port, rfl⟩)

theorem listed_of_admitted {host : List Char} (ended : WellEnded host)
    (admitted : Admitted host) : Listed host := by
  rcases admitted with (same | ⟨rest, rfl⟩) | ⟨name, member, rfl | ⟨rest, rfl⟩⟩
  · exact absurd same ended.closed
  · exact (listed_bracketed_iff rest).mpr (ended.bracketed rest rfl)
  · exact listed_of_dotted member
  · exact (listed_named_iff member rest).mpr (ended.named name member rest rfl)

/-- The check is exact on the headers that end well, and on no others. -/
theorem host_allowed_exact_iff (lower : List Char → List Char) (host : List Char) :
    (hostAllowed lower host = true ↔ Listed (lower (TextLines.strip host))) ↔
      WellEnded (lower (TextLines.strip host)) := by
  rw [host_allowed_iff]
  generalize lower (TextLines.strip host) = text
  constructor
  · intro exact
    constructor
    · rintro rfl
      have admitted := exact.mpr (.inl (by decide))
      simp [Admitted, dottedHosts] at admitted
    · rintro rfl
      have listed := exact.mp (.inl (.inl rfl))
      simp [Listed, allowedHosts, portHosts] at listed
    · rintro rest rfl
      exact (listed_bracketed_iff rest).mp (exact.mp (.inl (.inr ⟨rest, rfl⟩)))
    · rintro name member rest rfl
      exact (listed_named_iff member rest).mp (exact.mp (.inr ⟨name, member, .inr ⟨rest, rfl⟩⟩))
  · intro ended
    exact ⟨listed_of_admitted ended, admitted_of_listed ended.notBare⟩

/-- A hostile name after a loopback name and a colon is let through. -/
theorem hostile_suffix_allowed :
    let lower : List Char → List Char := fun text => text.map Char.toLower
    let host := "localhost:80.evil.example".toList
    hostAllowed lower host = true ∧ ¬ Listed (lower (TextLines.strip host)) := by
  intro lower host
  have text : lower (TextLines.strip host) =
      "localhost".toList ++ ':' :: "80.evil.example".toList := rfl
  constructor
  · rw [host_allowed_iff, text]
    exact .inr ⟨_, List.mem_cons_of_mem _ List.mem_cons_self, .inr ⟨_, rfl⟩⟩
  · rw [text, listed_named_iff (by decide)]
    decide

end AiEnterpriseOs.Api
