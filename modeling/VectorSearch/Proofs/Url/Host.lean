import VectorSearch.Proofs.Domain.Ascii
import VectorSearch.Proofs.Text.Utf8
import VectorSearch.Proofs.Url.Authority

namespace VectorSearch.Url

open Number Text

variable {text scheme authority : List Char}

theorem Host.ofText_plain (plain : Domain.PlainName text) :
    Host.ofText text =
      if (text.map Char.toLower).isEmpty then .error .emptyHost
      else if Host.endsInNumber (text.map Char.toLower) then
        match Host.ipv4? (text.map Char.toLower) with
        | some octets => .ok (.address (.v4 octets))
        | none => .error .invalidIpv4
      else .ok (.domain (text.map Char.toLower)) := by
  have unescaped : EscapeFree text := by
    intro rest suffix
    cases plain.allowed '%' (suffix.subset List.mem_cons_self)
  have decoded : (decode? (percentDecode text)).bind Domain.toAscii? =
      some (text.map Char.toLower) := by
    rw [unescaped.percentDecode_eq, decode?_encode]
    exact Domain.toAscii?_plain plain
  unfold Host.ofText
  split
  next rest => cases plain.allowed '[' List.mem_cons_self
  next =>
    generalize (decode? (percentDecode text)).bind Domain.toAscii? = read at decoded ⊢
    subst decoded
    rfl

/-- A name in ASCII is a host, unless it ends in a number without being an address. -/
theorem Host.ofText_plain_isOk_iff (plain : Domain.PlainName text) :
    (Host.ofText text).isOk = true ↔
      text ≠ [] ∧ (Host.endsInNumber (text.map Char.toLower) = true →
        (Host.ipv4? (text.map Char.toLower)).isSome = true) := by
  rw [Host.ofText_plain plain]
  cases text with
  | nil => simp [Except.isOk, Except.toBool]
  | cons c rest =>
      rw [List.map_cons, List.isEmpty_cons, if_neg Bool.false_ne_true]
      by_cases numeric : Host.endsInNumber (c.toLower :: rest.map Char.toLower) = true
      · rw [if_pos numeric]
        cases Host.ipv4? (c.toLower :: rest.map Char.toLower) <;>
          simp [numeric, Except.isOk, Except.toBool]
      · rw [if_neg numeric]
        simp [numeric, Except.isOk, Except.toBool]

def hostAndPort (authority : List Char) : List Char × List Char :=
  splitHost false (splitUserinfo authority).2

theorem readAuthority_isOk_iff :
    (readAuthority scheme authority).isOk = true ↔
      (Host.ofText (hostAndPort authority).1).isOk = true ∧
        (hostAndPort authority).2.tail.all Char.isDigit = true ∧
        digitsValue (hostAndPort authority).2.tail ≤ 65535 := by
  have nothing : (Host.ofText []).isOk = false := by
    have plain : Domain.PlainName [] := ⟨nofun, nofun, by decide⟩
    rw [Host.ofText_plain plain]
    rfl
  have port (digits : List Char) : (readPort (String.ofList scheme) digits).isOk = true ↔
      digits.all Char.isDigit = true ∧ digitsValue digits ≤ 65535 := by
    rw [readPort]
    split
    next both => exact iff_of_true rfl both
    next other => exact iff_of_false Bool.false_ne_true other
  rw [hostAndPort, ← port]
  simp only [readAuthority]
  cases (splitHost false (splitUserinfo authority).2).1 with
  | nil => exact iff_of_false Bool.false_ne_true fun both => by simp [nothing] at both
  | cons c rest =>
      rw [List.isEmpty_cons, if_neg Bool.false_ne_true]
      cases Host.ofText (c :: rest) with
      | error fault => exact iff_of_false Bool.false_ne_true fun both => Bool.false_ne_true both.1
      | ok host =>
          cases readPort (String.ofList scheme) (splitHost false (splitUserinfo authority).2).2.tail with
          | error fault =>
              exact iff_of_false Bool.false_ne_true fun both => Bool.false_ne_true both.2
          | ok port => exact iff_of_true rfl ⟨rfl, rfl⟩

/-- Whether an address with a path is read is a matter of its authority. -/
theorem parse_http_isOk (ends : ∀ last ∈ text.getLast?, ' ' < last) :
    (parse (String.ofList ("http://".toList ++ text))).isOk =
      (readAuthority "http".toList
        (((visible text).dropWhile (isSlash true)).takeWhile (!endsAuthority ·))).isOk := by
  rw [parse_http ends]
  generalize (visible text).dropWhile (isSlash true) = shown
  have bare : ∀ c ∈ shown.takeWhile (!endsAuthority ·), endsAuthority c = false := by
    intro c member
    simpa using List.mem_takeWhile_imp member
  have begins : ∀ c ∈ (shown.dropWhile (!endsAuthority ·)).head?, endsAuthority c = true := by
    intro c first
    have stopped := List.head?_dropWhile_not (!endsAuthority ·) shown
    rw [first] at stopped
    simpa using stopped
  have read := @withAuthority_append "http".toList _ _ (by decide) bare begins
  rw [List.takeWhile_append_dropWhile] at read
  rw [read]
  cases readAuthority "http".toList (shown.takeWhile (!endsAuthority ·)) <;> rfl

theorem splitHost_plain {host : List Char} (plain : Domain.PlainName host) (rest : List Char) :
    splitHost false (host ++ ':' :: rest) = (host, ':' :: rest) := by
  have signs : ∀ c ∈ host, c ≠ ':' ∧ c ≠ '[' := by
    intro c member
    constructor
    · rintro rfl
      cases plain.allowed ':' member
    · rintro rfl
      cases plain.allowed '[' member
  clear plain
  induction host with
  | nil => rfl
  | cons c others ih =>
      obtain ⟨⟨noColon, noBracket⟩, later⟩ := List.forall_mem_cons.mp signs
      rw [List.cons_append, splitHost, if_neg (by simp [noColon]), decide_eq_false noBracket]
      simp only [Bool.false_and, Bool.or_false, ih later]

end VectorSearch.Url
