import VectorSearch.Proofs.Number.Numeral
import VectorSearch.Proofs.Url.Host

namespace VectorSearch.Url

open Number Text

/-! Texts with a path behind them.

What stands behind a scheme is read with a slash and a path behind it if it was read without, unless it
names a user and no host, as in `a://@`. The path itself does not matter, as long as what it begins with
can be taken for a host: that is where a single slash meets the one in front of the path.
-/

/-- What ends an authority; a backslash does so only where the scheme is special. -/
def endsHere (scheme : List Char) (c : Char) : Bool :=
  isSlash (isSpecial (String.ofList scheme)) c || c == '?' || c == '#'

variable {scheme text authority rest : List Char}

theorem endsAuthority_of_endsHere {c : Char} (ends : endsHere scheme c = true) :
    endsAuthority c = true := by
  simp only [endsHere, isSlash, endsAuthority, Bool.or_eq_true, Bool.and_eq_true] at ends ⊢
  tauto

section

variable {test : Char → Bool} (stop : ∀ c ∈ rest.head?, test c = false)
include stop

theorem takeWhile_append_stopped (text : List Char) :
    (text ++ rest).takeWhile test = text.takeWhile test := by
  have none : rest.takeWhile test = [] := by
    cases rest with
    | nil => rfl
    | cons c others => simp [stop c rfl]
  rw [List.takeWhile_append, none, List.append_nil]
  split
  next all => exact ((List.takeWhile_prefix test).eq_of_length all).symm
  next => rfl

theorem dropWhile_append_stopped (text : List Char) :
    (text ++ rest).dropWhile test = text.dropWhile test ++ rest := by
  have all : rest.dropWhile test = rest := by
    cases rest with
    | nil => rfl
    | cons c others => simp [stop c rfl]
  rw [List.dropWhile_append, all]
  split
  next none => rw [List.isEmpty_iff.mp none, List.nil_append]
  next => rfl

end

theorem parsePort_isOk_append {name : String} {port : List Char}
    (begins : ∀ c ∈ rest.head?, endsAuthority c = true) :
    (parsePort name (port ++ rest)).isOk = (parsePort name port).isOk := by
  have stop : ∀ c ∈ rest.head?, c.isDigit = false := by
    intro c first
    by_contra digit
    have passes := @endsAuthority_of_test Char.isDigit c (by decide) (by simpa using digit)
    rw [begins c first] at passes
    contradiction
  have ended : ((port.dropWhile Char.isDigit ++ rest).head?.any fun c => !"/\\?#".toList.contains c) =
      ((port.dropWhile Char.isDigit).head?.any fun c => !"/\\?#".toList.contains c) := by
    cases port.dropWhile Char.isDigit with
    | cons c others => rfl
    | nil =>
        cases rest with
        | nil => rfl
        | cons c others =>
            simp only [List.nil_append, List.head?_cons, Option.any_some, endsAuthority_eq,
              begins c rfl]
            rfl
  simp only [parsePort, breakAt, Bool.not_not, takeWhile_append_stopped stop,
    dropWhile_append_stopped stop, ended]
  split <;> rfl

theorem splitUserinfo_eq_iff : splitUserinfo authority = (some [], []) ↔ authority = ['@'] := by
  constructor
  · intro parts
    rw [splitUserinfo] at parts
    split at parts
    next =>
      obtain ⟨user, host⟩ := Prod.mk.inj parts
      rw [host] at user
      rcases List.eq_nil_or_concat authority with rfl | ⟨init, last, rfl⟩
      · contradiction
      · have sign : last = '@' := by
          by_contra other
          simp [other] at host
        subst sign
        have bare : init = [] := by simpa using user
        rw [bare]
        rfl
    next => cases parts
  · rintro rfl
    rfl

theorem withAuthority_isOk_iff (bare : ∀ c ∈ authority, endsHere scheme c = false)
    (begins : ∀ c ∈ rest.head?, endsHere scheme c = true) :
    (withAuthority scheme (authority ++ rest)).isOk = true ↔
      (withAuthority scheme authority).isOk = true ∧ (authority = ['@'] → rest = []) := by
  have parted {others : List Char} (begins : ∀ c ∈ others.head?, endsHere scheme c = true) :
      breakAt (fun c => isSlash (isSpecial (String.ofList scheme)) c || c == '?' || c == '#')
        (authority ++ others) = (authority, others) := by
    change breakAt (endsHere scheme) _ = _
    have passes : ∀ c ∈ authority, (!endsHere scheme c) = true := by simpa using bare
    have stop : ∀ c ∈ others.head?, (!endsHere scheme c) = false := by simpa using begins
    rw [breakAt, takeWhile_append_of_stop passes stop, dropWhile_append_of_stop passes stop]
  have alone := @parted [] (by simp)
  rw [List.append_nil] at alone
  have sign : ((splitUserinfo authority).1 = some [] ∧ (splitUserinfo authority).2.isEmpty = true) ↔
      authority = ['@'] := by
    rw [← splitUserinfo_eq_iff, Prod.ext_iff, List.isEmpty_iff]
  have port := @parsePort_isOk_append rest (String.ofList scheme)
    (splitHost false (splitUserinfo authority).2).2.tail
    fun c first => endsAuthority_of_endsHere (begins c first)
  simp only [withAuthority, parted begins, alone, ← and_assoc, sign, List.append_nil,
    List.isEmpty_nil, Bool.not_true, Bool.false_eq_true, and_false, if_false]
  by_cases lone : authority = ['@'] ∧ rest ≠ []
  · rw [if_pos ⟨lone.1, by simpa using lone.2⟩]
    exact iff_of_false Bool.false_ne_true fun both => lone.2 (both.2 lone.1)
  · have follows : authority = ['@'] → rest = [] := by simpa using lone
    rw [if_neg (by simpa using follows), and_iff_left follows]
    -- Only the port is read from what follows as well, and that does not change whether it is one.
    generalize parsePort _ (_ ++ rest) = long at port ⊢
    generalize parsePort _ _ = short at port ⊢
    have ported {host : Except Fault (Option Host)}
        {build : Option Host → Option Nat × List Char → Url} :
        (do return build (← host) (← long) : Except Fault Url).isOk =
          (do return build (← host) (← short) : Except Fault Url).isOk := by
      cases host with
      | error fault => rfl
      | ok host => cases long <;> cases short <;> first | rfl | cases port
    split
    next => exact Iff.rfl
    next =>
      rw [Bool.coe_iff_coe]
      split
      next => exact @ported (.ok none) _
      next => exact ported

/-- A path behind a text leaves its authority as it is. -/
theorem withAuthority_slash_isOk_iff (scheme text path : List Char) :
    (withAuthority scheme (text ++ '/' :: path)).isOk = true ↔
      (withAuthority scheme text).isOk = true ∧ text ≠ ['@'] := by
  obtain ⟨authority, behind, rfl, bare, begins⟩ : ∃ authority behind, text = authority ++ behind ∧
      (∀ c ∈ authority, endsHere scheme c = false) ∧
      ∀ c ∈ behind.head?, endsHere scheme c = true := by
    refine ⟨text.takeWhile (!endsHere scheme ·), text.dropWhile (!endsHere scheme ·),
      List.takeWhile_append_dropWhile.symm, fun c member => ?_, fun c first => ?_⟩
    · simpa using List.mem_takeWhile_imp member
    · have stopped := List.head?_dropWhile_not (!endsHere scheme ·) text
      rw [first] at stopped
      simpa using stopped
  have slash : endsHere scheme '/' = true := rfl
  have later : ∀ c ∈ (behind ++ '/' :: path).head?, endsHere scheme c = true := by
    cases behind with
    | nil =>
        rintro _ ⟨⟩
        exact slash
    | cons first others => exact begins
  rw [List.append_assoc, withAuthority_isOk_iff bare later, withAuthority_isOk_iff bare begins]
  have sign : authority ++ behind = ['@'] ↔ authority = ['@'] ∧ behind = [] := by
    constructor
    · intro whole
      cases behind with
      | nil => exact ⟨by simpa using whole, rfl⟩
      | cons first others =>
          have member : first ∈ ['@'] := whole ▸ List.mem_append_right _ List.mem_cons_self
          have ends := begins first rfl
          rw [List.mem_singleton.mp member] at ends
          simp [endsHere, isSlash] at ends
    · rintro ⟨rfl, rfl⟩
      rfl
  have continued : behind ++ '/' :: path ≠ [] :=
    List.append_ne_nil_of_right_ne_nil _ (List.cons_ne_nil _ _)
  rw [ne_eq, sign]
  tauto

/-- Reads what stands behind a scheme. -/
def readBehind (scheme rest : List Char) : Except Fault Url :=
  let name := String.ofList scheme
  if name = "file" then file scheme rest
  else if isSpecial name then withAuthority scheme (rest.dropWhile (isSlash true))
  else
    match rest with
    | '/' :: '/' :: rest => withAuthority scheme rest
    | rest => .ok (withoutAuthority scheme rest)

/-- A path that is empty, or that begins with a name that a host can have. -/
def BeginsPlainly (path : List Char) : Prop :=
  path = [] ∨ ∃ name rest, path = name ++ '/' :: rest ∧
    (name = "api".toList ∨ name = "collections".toList)

namespace BeginsPlainly

variable {path : List Char}

theorem isSlash_head (plain : BeginsPlainly path) (special : Bool) :
    ∀ c ∈ path.head?, isSlash special c = false := by
  rcases plain with rfl | ⟨name, rest, rfl, rfl | rfl⟩ <;> rintro _ ⟨⟩ <;> cases special <;> rfl

theorem withAuthority_isOk (plain : BeginsPlainly path)
    (special : isSpecial (String.ofList scheme) = false) :
    (withAuthority scheme path).isOk = true := by
  rcases plain with rfl | ⟨name, rest, rfl, named⟩
  · simp only [withAuthority, special]
    rfl
  · rw [withAuthority_slash_isOk_iff]
    rcases named with rfl | rfl <;>
      exact ⟨by simp only [withAuthority, special]; rfl, by decide⟩

end BeginsPlainly

/-- What stands behind two slashes at the start of a text, if there are two, has a property. -/
def BehindSlashes (slash : Char → Bool) (property : List Char → Prop) (text : List Char) : Prop :=
  ∀ a b rest, text = a :: b :: rest → slash a = true → slash b = true → property rest

section

variable {slash : Char → Bool} {property : List Char → Prop} {path : List Char}

theorem BehindSlashes.of_append (behind : BehindSlashes slash property (text ++ '/' :: path))
    (shorter : ∀ rest, property (rest ++ '/' :: path) → property rest) :
    BehindSlashes slash property text := by
  rintro a b rest rfl first second
  exact shorter rest (behind a b (rest ++ '/' :: path) rfl first second)

/-- With a path behind it a text may begin with two slashes that it did not have; then what stands
behind them is the path. -/
theorem BehindSlashes.append (behind : BehindSlashes slash property text)
    (longer : ∀ a b rest, text = a :: b :: rest → slash a = true → slash b = true →
      property rest → property (rest ++ '/' :: path))
    (begins : ∀ c ∈ path.head?, slash c = false) (alone : property path) :
    BehindSlashes slash property (text ++ '/' :: path) := by
  intro a b rest whole first second
  match text with
  | [] =>
      obtain ⟨rfl, rfl⟩ := List.cons.inj whole
      rw [begins b rfl] at second
      contradiction
  | [c] =>
      obtain ⟨rfl, others⟩ := List.cons.inj whole
      obtain ⟨rfl, rfl⟩ := List.cons.inj others
      exact alone
  | c :: d :: others =>
      obtain ⟨rfl, more⟩ := List.cons.inj whole
      obtain ⟨rfl, rfl⟩ := List.cons.inj more
      exact longer c d others rfl first second (behind c d others rfl first second)

end

/-- What a file URL can have behind two slashes: no host, a drive, or a host. -/
def isFileHost (text : List Char) : Bool :=
  let host := text.takeWhile (!endsAuthority ·)
  host.isEmpty || isDriveLetter host || (Host.ofText host).isOk

theorem isFileHost_slash (text path : List Char) :
    isFileHost (text ++ '/' :: path) = isFileHost text := by
  have stop : ∀ c ∈ ('/' :: path).head?, (!endsAuthority c) = false := by
    rintro _ ⟨⟩
    rfl
  rw [isFileHost, takeWhile_append_stopped stop, isFileHost]

theorem BeginsPlainly.isFileHost {path : List Char} (plain : BeginsPlainly path) :
    isFileHost path = true := by
  rcases plain with rfl | ⟨name, rest, rfl, named⟩
  · rfl
  · rw [isFileHost_slash]
    rcases named with rfl | rfl <;> decide +kernel

theorem file_isOk_iff (scheme text : List Char) :
    (file scheme text).isOk = true ↔
      BehindSlashes (isSlash true) (isFileHost · = true) text := by
  match text with
  | [] => exact iff_of_true rfl nofun
  | [a] => exact iff_of_true rfl nofun
  | a :: b :: rest =>
      rw [file]
      dsimp only
      split
      next both =>
        obtain ⟨first, second⟩ := Bool.and_eq_true_iff.mp both
        have behind : BehindSlashes (isSlash true) (isFileHost · = true) (a :: b :: rest) ↔
            isFileHost rest = true := by
          constructor
          · exact fun property => property a b rest rfl first second
          · rintro host _ _ _ ⟨⟩ _ _
            exact host
        rw [behind, isFileHost, breakAt]
        change _ ↔ (let host := rest.takeWhile fun c => !(isSlash true c || c == '?' || c == '#')
          host.isEmpty || isDriveLetter host || (Host.ofText host).isOk) = true
        dsimp only
        split
        next drive => exact iff_of_true rfl (by rw [drive, Bool.true_or])
        next named =>
          rw [Bool.eq_false_iff.mpr named, Bool.false_or]
          cases Host.ofText (rest.takeWhile fun c => !(isSlash true c || c == '?' || c == '#')) <;>
            exact Iff.rfl
      next neither =>
        refine iff_of_true rfl ?_
        rintro _ _ _ ⟨⟩ first second
        exact absurd (Bool.and_eq_true_iff.mpr ⟨first, second⟩) neither

theorem eq_slash {c : Char} (slash : isSlash false c = true) : c = '/' := by
  simpa [isSlash] using slash

theorem readBehind_isOk_iff (scheme rest : List Char) :
    (readBehind scheme rest).isOk = true ↔
      if String.ofList scheme = "file" then
        BehindSlashes (isSlash true) (isFileHost · = true) rest
      else if isSpecial (String.ofList scheme) then
        (withAuthority scheme (rest.dropWhile (isSlash true))).isOk = true
      else BehindSlashes (isSlash false) (fun text => (withAuthority scheme text).isOk = true) rest := by
  unfold readBehind
  dsimp only
  split
  next => exact file_isOk_iff scheme rest
  next =>
    split
    next => exact Iff.rfl
    next =>
      split
      next rest =>
        constructor
        · rintro accepted _ _ _ ⟨⟩ _ _
          exact accepted
        · exact fun behind => behind '/' '/' rest rfl rfl rfl
      next rest single =>
        refine iff_of_true rfl ?_
        rintro a b others rfl first second
        exact (single others (by rw [eq_slash first, eq_slash second])).elim

theorem withAuthority_sign (special : isSpecial (String.ofList scheme) = true) :
    withAuthority scheme ['@'] = .error .emptyHost := by
  simp only [withAuthority, special]
  rfl

/-- What a scheme needs behind it: where it is special, something that is no slash. -/
def HasRest (scheme rest : List Char) : Prop :=
  String.ofList scheme ≠ "file" → isSpecial (String.ofList scheme) = true →
    rest.dropWhile (isSlash true) ≠ []

theorem hasRest_of_isOk {scheme rest : List Char} (accepted : (readBehind scheme rest).isOk = true) :
    HasRest scheme rest := by
  intro noFile special none
  rw [readBehind_isOk_iff, if_neg noFile, if_pos special, none] at accepted
  have refused : withAuthority scheme [] = .error .emptyHost := by
    simp only [withAuthority, special]
    rfl
  rw [refused] at accepted
  cases accepted

theorem HasRest.dropWhile_append {scheme rest : List Char} (able : HasRest scheme rest)
    (noFile : String.ofList scheme ≠ "file") (special : isSpecial (String.ofList scheme) = true)
    (more : List Char) :
    (rest ++ more).dropWhile (isSlash true) = rest.dropWhile (isSlash true) ++ more := by
  rw [List.dropWhile_append, if_neg (by simpa using able noFile special)]

theorem HasRest.append {scheme rest : List Char} (able : HasRest scheme rest) (more : List Char) :
    HasRest scheme (rest ++ more) := by
  intro noFile special none
  rw [able.dropWhile_append noFile special] at none
  exact able noFile special (List.append_eq_nil_iff.mp none).1

theorem HasRest.of_append {scheme rest more : List Char} (able : HasRest scheme (rest ++ more))
    (slashes : ∀ c ∈ more, c = '/') : HasRest scheme rest := by
  intro noFile special none
  apply able noFile special
  rw [List.dropWhile_append, none]
  simp only [List.isEmpty_nil, if_true, List.dropWhile_eq_nil_iff]
  intro c member
  rw [slashes c member]
  rfl

/-- Whatever is read with a path behind it is read without. -/
theorem readBehind_of_slash {scheme rest path : List Char} (able : HasRest scheme rest)
    (accepted : (readBehind scheme (rest ++ '/' :: path)).isOk = true) :
    (readBehind scheme rest).isOk = true ∧ rest ≠ "//@".toList := by
  rw [readBehind_isOk_iff] at accepted ⊢
  by_cases isFile : String.ofList scheme = "file"
  · rw [if_pos isFile] at accepted ⊢
    have behind : BehindSlashes (isSlash true) (isFileHost · = true) rest :=
      accepted.of_append fun others => (isFileHost_slash others path).symm.trans
    refine ⟨behind, ?_⟩
    rintro rfl
    have sign : isFileHost ['@'] = false := by decide +kernel
    exact Bool.false_ne_true (sign.symm.trans (behind '/' '/' ['@'] rfl rfl rfl))
  · rw [if_neg isFile] at accepted ⊢
    by_cases special : isSpecial (String.ofList scheme) = true
    · rw [if_pos special] at accepted ⊢
      rw [able.dropWhile_append isFile special, withAuthority_slash_isOk_iff] at accepted
      refine ⟨accepted.1, ?_⟩
      rintro rfl
      exact accepted.2 rfl
    · rw [if_neg special] at accepted ⊢
      refine ⟨accepted.of_append fun others read =>
        ((withAuthority_slash_isOk_iff scheme others path).mp read).1, ?_⟩
      rintro rfl
      have read := accepted '/' '/' ('@' :: '/' :: path) rfl rfl rfl
      exact ((withAuthority_slash_isOk_iff scheme ['@'] path).mp read).2 rfl

/-- Whatever is read is read with a path behind it too, if it names no user in place of a host. -/
theorem readBehind_slash {scheme rest path : List Char} (plain : BeginsPlainly path)
    (accepted : (readBehind scheme rest).isOk = true)
    (named : rest ≠ "//@".toList) : (readBehind scheme (rest ++ '/' :: path)).isOk = true := by
  have able := hasRest_of_isOk accepted
  rw [readBehind_isOk_iff] at accepted ⊢
  by_cases isFile : String.ofList scheme = "file"
  · rw [if_pos isFile] at accepted ⊢
    exact accepted.append (fun _ _ others _ _ _ => (isFileHost_slash others path).trans)
      (plain.isSlash_head true) plain.isFileHost
  · rw [if_neg isFile] at accepted ⊢
    by_cases special : isSpecial (String.ofList scheme) = true
    · rw [if_pos special] at accepted ⊢
      rw [able.dropWhile_append isFile special, withAuthority_slash_isOk_iff]
      refine ⟨accepted, fun sign => ?_⟩
      rw [sign, withAuthority_sign special] at accepted
      cases accepted
    · rw [if_neg special] at accepted ⊢
      refine accepted.append (fun a b others whole first second read => ?_)
        (plain.isSlash_head false) (plain.withAuthority_isOk (by simpa using special))
      refine (withAuthority_slash_isOk_iff scheme others path).mpr ⟨read, ?_⟩
      rintro rfl
      exact named (by rw [whole, eq_slash first, eq_slash second]; rfl)

end VectorSearch.Url
