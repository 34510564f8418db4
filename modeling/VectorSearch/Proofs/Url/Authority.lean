import VectorSearch.Proofs.Url.Target

namespace VectorSearch.Url

open Number Text

/-- What ends the authority of a special scheme. -/
def endsAuthority (c : Char) : Bool :=
  isSlash true c || c == '?' || c == '#'

/-- A port that an authority ends in. -/
def readPort (scheme : String) (text : List Char) : Except Fault (Option Nat) :=
  if text.all Char.isDigit ∧ digitsValue text ≤ 65535 then
    .ok (if text.isEmpty || some (digitsValue text) = defaultPort? scheme then none
      else some (digitsValue text))
  else .error .invalidPort

/-- The user, the host and the port that an authority of a special scheme names. -/
def readAuthority (scheme authority : List Char) : Except Fault Url := do
  let (userinfo, hostAndPort) := splitUserinfo authority
  let (hostText, portText) := splitHost false hostAndPort
  if hostText.isEmpty then .error .emptyHost
  else
    let host ← Host.ofText hostText
    let port ← readPort (String.ofList scheme) portText.tail
    return ⟨scheme, userinfo.getD [], some host, port, .rooted [], none, none⟩

variable {scheme authority rest : List Char}

theorem endsAuthority_eq (c : Char) : "/\\?#".toList.contains c = endsAuthority c := by
  simp [endsAuthority, isSlash, Bool.or_assoc, Bool.beq_eq_decide_eq]

/-- Whatever passes a test that no separator passes belongs to an authority. -/
theorem endsAuthority_of_test {test : Char → Bool} {c : Char}
    (excludes : "/\\?#".toList.all (!test ·) = true) (passes : test c = true) :
    endsAuthority c = false := by
  rw [← endsAuthority_eq]
  by_contra ends
  have member : c ∈ "/\\?#".toList := List.contains_iff_mem.mp (Bool.not_eq_false _ ▸ ends)
  have refused := List.all_eq_true.mp excludes c member
  rw [passes] at refused
  contradiction

theorem parsePort_append {name : String} {text : List Char}
    (bare : ∀ c ∈ text, endsAuthority c = false)
    (begins : ∀ c ∈ rest.head?, endsAuthority c = true) :
    parsePort name (text ++ rest) = (readPort name text).map (·, rest) := by
  have stops (c : Char) (first : c ∈ rest.head?) : c.isDigit = false := by
    by_contra digit
    have passes := @endsAuthority_of_test Char.isDigit c (by decide) (by simpa using digit)
    rw [begins c first] at passes
    contradiction
  have taken : rest.takeWhile Char.isDigit = [] ∧ rest.dropWhile Char.isDigit = rest := by
    cases rest with
    | nil => exact ⟨rfl, rfl⟩
    | cons c others => simp [stops c rfl]
  by_cases digits : ∀ c ∈ text, c.isDigit = true
  · have all : text.all Char.isDigit = true := List.all_eq_true.mpr digits
    have ended : (rest.head?.any fun c => !"/\\?#".toList.contains c) = false := by
      cases rest with
      | nil => rfl
      | cons c others => simp only [List.head?_cons, Option.any_some, endsAuthority_eq, begins c rfl]; rfl
    simp only [parsePort, breakAt, Bool.not_not, List.takeWhile_append_of_pos digits,
      List.dropWhile_append_of_pos digits, taken, List.append_nil, ended, Bool.or_false, readPort,
      all, true_and, decide_eq_true_eq]
    by_cases bound : digitsValue text ≤ 65535
    · rw [if_neg (Nat.not_lt.mpr bound), if_pos bound]
      rfl
    · rw [if_pos (Nat.lt_of_not_le bound), if_neg bound]
      rfl
  -- The digits end at a character that ends no authority, so what follows does not matter.
  · have some : text.all Char.isDigit = false := by simpa using digits
    obtain ⟨c, others, dropped⟩ : ∃ c others, text.dropWhile Char.isDigit = c :: others := by
      apply List.exists_cons_of_ne_nil
      simpa using digits
    have inText : c ∈ text := (List.dropWhile_sublist _).subset (dropped ▸ List.mem_cons_self)
    have next : (text ++ rest).dropWhile Char.isDigit = c :: (others ++ rest) := by
      rw [List.dropWhile_append, dropped]
      rfl
    simp only [parsePort, breakAt, Bool.not_not, next, List.head?_cons, Option.any_some,
      endsAuthority_eq, bare c inText, Bool.not_false, Bool.or_true, if_true, readPort, some,
      Bool.false_eq_true, false_and, if_false]
    rfl

theorem splitHost_append (bracketed : Bool) (text : List Char) :
    (splitHost bracketed text).1 ++ (splitHost bracketed text).2 = text := by
  induction text generalizing bracketed with
  | nil => rfl
  | cons c rest ih =>
      rw [splitHost]
      split
      · rfl
      · exact congrArg (c :: ·) (ih _)

theorem splitUserinfo_suffix (authority : List Char) : (splitUserinfo authority).2 <:+ authority := by
  rw [splitUserinfo]
  split
  · have start : authority.reverse.takeWhile (· ≠ '@') <+: authority.reverse :=
      List.takeWhile_prefix _
    simpa using List.reverse_suffix.mpr start
  · exact List.suffix_refl _

theorem mem_portText {authority : List Char} {c : Char}
    (member : c ∈ (splitHost false (splitUserinfo authority).2).2.tail) : c ∈ authority := by
  have inHostAndPort : c ∈ (splitUserinfo authority).2 := by
    rw [← splitHost_append false (splitUserinfo authority).2]
    exact List.mem_append_right _ (List.mem_of_mem_tail member)
  exact (splitUserinfo_suffix authority).subset inHostAndPort

theorem withAuthority_append (special : isSpecial (String.ofList scheme) = true)
    (bare : ∀ c ∈ authority, endsAuthority c = false)
    (begins : ∀ c ∈ rest.head?, endsAuthority c = true) :
    withAuthority scheme (authority ++ rest) =
      (readAuthority scheme authority).map (withRest · (authorityPath true) rest) := by
  have parted : breakAt (fun c => isSlash true c || c == '?' || c == '#') (authority ++ rest) =
      (authority, rest) := by
    change breakAt endsAuthority _ = _
    have passes : ∀ c ∈ authority, (!endsAuthority c) = true := by simpa using bare
    rw [breakAt, List.takeWhile_append_of_pos passes, List.dropWhile_append_of_pos passes]
    cases rest with
    | nil => simp
    | cons c others => simp [begins c rfl]
  have port := @parsePort_append rest (String.ofList scheme) _
    (fun c member => bare c (mem_portText member)) begins
  simp only [withAuthority, special, parted, port, readAuthority]
  cases empty : (splitHost false (splitUserinfo authority).2).1 with
  | nil =>
      split
      · rfl
      · rfl
  | cons c others =>
      have present : (splitUserinfo authority).2 ≠ [] := by
        intro none
        rw [none] at empty
        cases empty
      rw [if_neg (by simp [present])]
      simp only [List.isEmpty_cons, Bool.false_and, Bool.false_eq_true, if_false, if_true]
      cases Host.ofText (c :: others) with
      | error fault => rfl
      | ok host =>
          cases readPort (String.ofList scheme) (splitHost false (splitUserinfo authority).2).2.tail <;>
            rfl

/-- What is left of a text when tabs and line breaks are dropped. -/
def visible (text : List Char) : List Char :=
  text.filter (!isLineBreakOrTab ·)

theorem dropEndWhile_of_last {test : Char → Bool} {text : List Char}
    (ends : ∀ last ∈ text.getLast?, test last = false) : dropEndWhile test text = text := by
  rcases List.eq_nil_or_concat text with rfl | ⟨init, last, rfl⟩
  · rfl
  · have kept : test last = false := ends last (by simp)
    simp [dropEndWhile, kept]

theorem parse_http {text : List Char} (ends : ∀ last ∈ text.getLast?, ' ' < last) :
    parse (String.ofList ("http://".toList ++ text)) =
      withAuthority "http".toList ((visible text).dropWhile (isSlash true)) := by
  have trimmed : dropEndWhile (· ≤ ' ')
      (("http://".toList ++ text).dropWhile (· ≤ ' ')) = "http://".toList ++ text := by
    apply dropEndWhile_of_last
    intro last final
    apply decide_eq_false
    apply Char.not_le.mpr
    change last ∈ ("http://".toList ++ text).getLast? at final
    rw [List.getLast?_append] at final
    cases shown : text.getLast? with
    | none =>
        rw [shown] at final
        cases final
        decide
    | some other =>
        rw [shown] at final
        cases final
        exact ends _ shown
  have spelled : splitScheme (("http://".toList ++ text).filter (!isLineBreakOrTab ·)) =
      some ("http".toList, "//".toList ++ visible text) := rfl
  have slashes : ("//".toList ++ visible text).dropWhile (isSlash true) =
      (visible text).dropWhile (isSlash true) := rfl
  rw [← slashes, parse, String.toList_ofList]
  dsimp only
  rw [trimmed, spelled]
  rfl

end VectorSearch.Url
