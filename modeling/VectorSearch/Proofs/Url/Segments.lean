import VectorSearch.Proofs.Domain.Ascii
import VectorSearch.Proofs.Text.Utf8
import VectorSearch.Proofs.Url.Authority

namespace VectorSearch.Url

open Text

/-! Texts that stand for themselves as segments of a path.

A text that is pasted into a path is one segment of it only if nothing in it has a meaning there:
separators, marks, dots, escapes, and the characters that are dropped. Then, and only then, the path
decodes to what was pasted together.
-/

/-- What begins a query or a fragment. -/
def isMark (c : Char) : Bool :=
  c == '?' || c == '#'

/-- The path of a text that follows an authority. -/
def pathOf (text : List Char) : Path :=
  authorityPath true (text.takeWhile (!isMark ·))

/-- What stands between slashes, up to the first mark. -/
def pieces (text : List Char) : List (List Char) :=
  ((text.takeWhile (!isMark ·)).map fun c => if isSlash true c then '/' else c).splitOn '/'

/-- A text without a meaning of its own in a path. -/
structure PlainSegment (text : List Char) : Prop where
  unaltered : Unaltered text
  whole : ∀ c ∈ text, endsAuthority c = false
  stays : text ≠ ".".toList ∧ text ≠ "..".toList

variable {text name ending rest : List Char} {before : List (List Char)}

theorem PlainSegment.of_isAlphanum (letters : text.all Char.isAlphanum = true) :
    PlainSegment text := by
  have each := List.all_eq_true.mp letters
  have sign {c : Char} (other : c.isAlphanum = false) : c ∉ text := by
    intro member
    rw [each c member] at other
    contradiction
  have dot : '.' ∉ text := sign (by decide)
  refine ⟨⟨fun c member => ?_, fun rest suffix => ?_⟩, fun c member => ?_, ?_, ?_⟩
  · exact isLineBreakOrTab_of_test (by decide) (each c member)
  · exact absurd (suffix.subset List.mem_cons_self) (sign (by decide))
  · exact endsAuthority_of_test (by decide) (each c member)
  · rintro rfl
    exact dot List.mem_cons_self
  · rintro rfl
    exact dot List.mem_cons_self

theorem withRest_path (base : Url) (text : List Char) :
    (withRest base (authorityPath true) text).path = pathOf text := by
  have cut : (text.takeWhile (!(· == '#') ·)).takeWhile (!(· == '?') ·) =
      text.takeWhile (!isMark ·) := by
    simp [List.takeWhile_takeWhile, isMark, Bool.beq_eq_decide_eq]
  exact congrArg (authorityPath true) cut

theorem endsAuthority_eq_false_iff {c : Char} :
    endsAuthority c = false ↔ isSlash true c = false ∧ isMark c = false := by
  rw [endsAuthority, Bool.or_assoc, Bool.or_eq_false_iff]
  rfl

theorem slashes_eq_self (whole : ∀ c ∈ text, endsAuthority c = false) :
    text.map (fun c => if isSlash true c then '/' else c) = text := by
  refine (List.map_congr_left fun c member => ?_).trans (List.map_id text)
  rw [if_neg (by simp [(endsAuthority_eq_false_iff.mp (whole c member)).1])]
  rfl

theorem takeWhile_unmarked (whole : ∀ c ∈ text, endsAuthority c = false) (rest : List Char) :
    (text ++ rest).takeWhile (!isMark ·) = text ++ rest.takeWhile (!isMark ·) := by
  apply List.takeWhile_append_of_pos
  intro c member
  rw [(endsAuthority_eq_false_iff.mp (whole c member)).2]
  rfl

theorem slash_notMem (whole : ∀ c ∈ text, endsAuthority c = false) : '/' ∉ text := by
  intro member
  cases whole '/' member

theorem pieces_cons (whole : ∀ c ∈ text, endsAuthority c = false) (rest : List Char) :
    pieces (text ++ '/' :: rest) = text :: pieces rest := by
  have taken : ('/' :: rest).takeWhile (!isMark ·) = '/' :: rest.takeWhile (!isMark ·) := rfl
  rw [pieces, takeWhile_unmarked whole, taken, List.map_append, slashes_eq_self whole]
  exact List.splitOn_append_cons_self_of_not_mem (slash_notMem whole) _

theorem pieces_whole (whole : ∀ c ∈ text, endsAuthority c = false) : pieces text = [text] := by
  have taken := takeWhile_unmarked whole []
  rw [List.append_nil, List.takeWhile_nil, List.append_nil] at taken
  rw [pieces, taken, slashes_eq_self whole]
  exact List.splitOn_eq_singleton (slash_notMem whole)

theorem pieces_behind (plain : ∀ segment ∈ before, PlainSegment segment) (rest : List Char) :
    pieces (before.flatMap (· ++ ['/']) ++ rest) = before ++ pieces rest := by
  induction before with
  | nil => rfl
  | cons first others ih =>
      obtain ⟨here, later⟩ := List.forall_mem_cons.mp plain
      rw [List.flatMap_cons, List.append_assoc, List.append_assoc]
      exact (pieces_cons here.whole _).trans (congrArg (first :: ·) (ih later))

theorem sublist_of_mem_pieces {piece : List Char} (member : piece ∈ pieces text) :
    piece.Sublist (text.filter (!endsAuthority ·)) := by
  have taken : (text.takeWhile (!isMark ·)).Sublist (text.filter (!isMark ·)) := by
    have all : (text.takeWhile (!isMark ·)).filter (!isMark ·) = text.takeWhile (!isMark ·) :=
      List.filter_eq_self.mpr fun c => List.mem_takeWhile_imp
    rw [← all]
    exact (List.takeWhile_sublist _).filter _
  have kept : (text.filter (!isMark ·)).filter (!isSlash true ·) =
      text.filter (!endsAuthority ·) := by
    rw [List.filter_filter]
    congr 1
    funext c
    rw [endsAuthority, Bool.or_assoc, Bool.not_or]
    rfl
  have slashes (part : List Char) :
      (part.map fun c => if isSlash true c then '/' else c).filter (· ≠ '/') =
        part.filter (!isSlash true ·) := by
    induction part with
    | nil => rfl
    | cons c rest ih =>
        by_cases slash : isSlash true c = true
        · rw [List.map_cons, if_pos slash, List.filter_cons_of_neg (by simp),
            List.filter_cons_of_neg (by simp [slash]), ih]
        · have other : c ≠ '/' := by
            rintro rfl
            exact slash rfl
          rw [List.map_cons, if_neg slash, List.filter_cons_of_pos (by simpa using other),
            List.filter_cons_of_pos (by simpa using slash), ih]
  have split := Domain.sublist_of_mem_splitOn member
  rw [slashes] at split
  rw [← kept]
  exact split.trans (taken.filter _)

theorem mem_pieces_append {piece : List Char} (whole : ∀ c ∈ ending, endsAuthority c = false)
    (member : piece ∈ pieces (name ++ '/' :: ending)) :
    piece = ending ∨ piece.Sublist (name.filter (!endsAuthority ·)) := by
  by_cases unmarked : ∀ c ∈ name, (!isMark c) = true
  · have both : pieces (name ++ '/' :: ending) = pieces name ++ pieces ending := by
      have taken : (name ++ '/' :: ending).takeWhile (!isMark ·) =
          name.takeWhile (!isMark ·) ++ '/' :: ending.takeWhile (!isMark ·) := by
        rw [List.takeWhile_append_of_pos unmarked, List.takeWhile_eq_self_iff.mpr unmarked]
        rfl
      rw [pieces, taken, List.map_append]
      exact List.splitOn_append_cons_self _ _
    rw [both, pieces_whole whole] at member
    rcases List.mem_append.mp member with inName | last
    · exact .inr (sublist_of_mem_pieces inName)
    · exact .inl (List.mem_singleton.mp last)
  · have cut : pieces (name ++ '/' :: ending) = pieces name := by
      have short : (name.takeWhile (!isMark ·)).length ≠ name.length := by
        intro same
        apply unmarked
        exact List.takeWhile_eq_self_iff.mp ((List.takeWhile_prefix _).eq_of_length same)
      rw [pieces, List.takeWhile_append, if_neg short]
      rfl
    rw [cut] at member
    exact .inr (sublist_of_mem_pieces member)

theorem eq_of_toLower {c d : Char} (lower : c.toLower = d) (sign : d.toNat < 97 ∨ 122 < d.toNat) :
    c = d := by
  rcases Domain.toLower_cases c with ⟨-, same⟩ | ⟨-, shifted, above, below⟩
  · exact same.symm.trans lower
  · rw [lower] at shifted
    omega

theorem eq_dots_of_lower {n : Nat} (lower : text.map Char.toLower = List.replicate n '.') :
    text = List.replicate n '.' := by
  obtain ⟨length, dots⟩ := List.eq_replicate_iff.mp lower
  refine List.eq_replicate_iff.mpr ⟨(List.length_map _).symm.trans length, fun c member => ?_⟩
  exact eq_of_toLower (dots _ (List.mem_map_of_mem member)) (by decide)

theorem hexValue?_of_toLower {c : Char} (lower : c.toLower = 'e') : hexValue? c = some 14 := by
  rcases Domain.toLower_cases c with ⟨-, same⟩ | ⟨-, shifted, -⟩
  · rw [← same, lower]
    rfl
  · rw [lower] at shifted
    have : c = 'E' := Char.toNat_inj.mp (by simp at shifted ⊢; omega)
    rw [this]
    rfl

/-- A dot that is encoded, in either case, is an escape. -/
theorem not_escapeFree_of_lower {front back : List Char}
    (lower : text.map Char.toLower = front ++ ("%2e".toList ++ back)) : ¬EscapeFree text := by
  obtain ⟨before, escape, rfl, -, inLower⟩ := List.map_eq_append_iff.mp lower
  obtain ⟨percent, digits, rfl, first, inLower⟩ := List.map_eq_cons_iff.mp inLower
  obtain ⟨high, digits, rfl, second, inLower⟩ := List.map_eq_cons_iff.mp inLower
  obtain ⟨low, after, rfl, third, -⟩ := List.map_eq_cons_iff.mp inLower
  obtain rfl := eq_of_toLower first (by decide)
  obtain rfl := eq_of_toLower second (by decide)
  intro free
  have none := free _ (List.suffix_append before _)
  rw [leadingOctet?_cons, List.head?_cons, Option.bind_some, hexValue?_of_toLower third] at none
  cases none

theorem PlainSegment.isDot (plain : PlainSegment text) : isDot text = false := by
  by_contra dot
  simp only [Url.isDot, List.contains_cons, List.contains_nil, Bool.or_false, Bool.not_eq_false,
    Bool.or_eq_true, beq_iff_eq, ← String.toList_inj, String.toList_ofList] at dot
  rcases dot with single | encoded
  · exact plain.stays.1 (@eq_dots_of_lower _ 1 single)
  · exact @not_escapeFree_of_lower _ [] [] encoded plain.unaltered.escapeFree

theorem PlainSegment.isDoubleDot (plain : PlainSegment text) : isDoubleDot text = false := by
  by_contra dots
  simp only [Url.isDoubleDot, List.contains_cons, List.contains_nil, Bool.or_false,
    Bool.not_eq_false, Bool.or_eq_true, beq_iff_eq, ← String.toList_inj, String.toList_ofList] at dots
  rcases dots with double | second | first | both
  · exact plain.stays.2 (@eq_dots_of_lower _ 2 double)
  · exact @not_escapeFree_of_lower _ ['.'] [] second plain.unaltered.escapeFree
  · exact @not_escapeFree_of_lower _ [] ['.'] first plain.unaltered.escapeFree
  · exact @not_escapeFree_of_lower _ [] "%2e".toList both plain.unaltered.escapeFree

theorem resolve_plain (plain : ∀ segment ∈ before, PlainSegment segment)
    (done : List (List Char)) {rest : List (List Char)} (more : rest ≠ []) :
    resolve done (before ++ rest) =
      resolve ((before.map (percentEncode inPathSet)).reverse ++ done) rest := by
  induction before generalizing done with
  | nil => rfl
  | cons first others ih =>
      obtain ⟨here, later⟩ := List.forall_mem_cons.mp plain
      have nonempty : others ++ rest ≠ [] := List.append_ne_nil_of_right_ne_nil _ more
      rw [List.cons_append, resolve.eq_3 _ _ _ nonempty, here.isDoubleDot, here.isDot]
      simp only [Bool.false_eq_true, if_false]
      rw [ih later, List.map_cons, List.reverse_cons, List.append_assoc]
      rfl

theorem resolve_whole (plain : ∀ segment ∈ before, PlainSegment segment)
    (last : PlainSegment ending) (done : List (List Char)) :
    resolve done (before ++ [ending]) =
      done.reverse ++ (before ++ [ending]).map (percentEncode inPathSet) := by
  rw [resolve_plain plain done (List.cons_ne_nil _ _), resolve, last.isDoubleDot, last.isDot]
  simp

/-- What the segments of a path say. -/
def Path.names : Path → List (List UInt8)
  | .rootless text => [percentDecode text]
  | .rooted segments => segments.map percentDecode

/-- A text that is pasted behind segments, in front of another. -/
def pasted (before : List (List Char)) (name ending : List Char) : List Char :=
  '/' :: (before.flatMap (· ++ ['/']) ++ (name ++ '/' :: ending))

theorem percentDecode_segment (text : List Char) :
    percentDecode (percentEncode inPathSet text) = percentDecode text :=
  percentDecode_percentEncode inPathSet_keepsEscapes text

theorem encode_injective : Function.Injective encode :=
  Function.LeftInverse.injective decodeLossy_encode

theorem names_pasted (plain : ∀ segment ∈ before, PlainSegment segment) (name ending : List Char) :
    (pathOf (pasted before name ending)).names =
      (resolve [] (before ++ pieces (name ++ '/' :: ending))).map percentDecode := by
  rw [← pieces_behind plain]
  rfl

theorem names_of_plain (plain : ∀ segment ∈ before, PlainSegment segment)
    (named : PlainSegment name) (last : PlainSegment ending) :
    (pathOf (pasted before name ending)).names = (before ++ [name, ending]).map encode := by
  have early : ∀ segment ∈ before ++ [name], PlainSegment segment :=
    List.forall_mem_append.mpr ⟨plain, List.forall_mem_singleton.mpr named⟩
  have all : ∀ segment ∈ before ++ [name] ++ [ending], PlainSegment segment :=
    List.forall_mem_append.mpr ⟨early, List.forall_mem_singleton.mpr last⟩
  have parts : before ++ pieces (name ++ '/' :: ending) = before ++ [name] ++ [ending] := by
    rw [pieces_cons named.whole, pieces_whole last.whole, List.append_assoc]
    rfl
  rw [names_pasted plain, parts, resolve_whole early last, List.reverse_nil, List.nil_append,
    List.map_map, List.append_assoc]
  apply List.map_congr_left
  intro segment member
  have free := (all segment (List.append_assoc .. ▸ member)).unaltered.escapeFree
  exact (percentDecode_segment segment).trans free.percentDecode_eq

/-- Dots are resolved, so there is one segment too few. -/
theorem length_names_dots (plain : ∀ segment ∈ before, PlainSegment segment)
    (last : PlainSegment ending) (dots : name = ".".toList ∨ name = "..".toList) :
    (pathOf (pasted before name ending)).names.length < before.length + 2 := by
  have whole : ∀ c ∈ name, endsAuthority c = false := by
    intro c member
    have dot : c = '.' := by rcases dots with rfl | rfl <;> simpa using member
    rw [dot]
    rfl
  rw [names_pasted plain, pieces_cons whole, pieces_whole last.whole,
    resolve_plain plain [] (List.cons_ne_nil _ _), List.append_nil]
  have final (done : List (List Char)) :
      resolve done [ending] = done.reverse ++ [percentEncode inPathSet ending] :=
    @resolve_whole ending [] nofun last done
  rcases dots with rfl | rfl
  · have single : resolve (before.map (percentEncode inPathSet)).reverse [".".toList, ending] =
        resolve (before.map (percentEncode inPathSet)).reverse [ending] := rfl
    rw [single, final]
    simp only [List.length_map, List.length_append, List.length_reverse, List.length_singleton]
    omega
  · have double : resolve (before.map (percentEncode inPathSet)).reverse ["..".toList, ending] =
        resolve (before.map (percentEncode inPathSet)).reverse.tail [ending] := rfl
    rw [double, final]
    simp only [List.length_map, List.length_append, List.length_reverse, List.length_tail,
      List.length_singleton]
    omega

/-- What says a whole text is all of that text, and says it without escapes. -/
theorem plain_of_decoded {piece : List Char}
    (sublist : piece.Sublist ((visible name).filter (!endsAuthority ·)))
    (decoded : percentDecode piece = encode name) :
    Unaltered name ∧ ∀ c ∈ name, endsAuthority c = false := by
  have whole : piece = name := by
    by_contra different
    have shorter := length_encode_lt
      (sublist.trans (List.filter_sublist.trans List.filter_sublist)) different
    have bound := length_percentDecode_le piece
    rw [decoded] at bound
    omega
  subst whole
  have free : EscapeFree piece := percentDecode_eq_encode_iff.mp decoded
  have kept (c : Char) (member : c ∈ piece) :
      isLineBreakOrTab c = false ∧ endsAuthority c = false := by
    obtain ⟨shown, passes⟩ := List.mem_filter.mp (sublist.subset member)
    exact ⟨by simpa using (List.mem_filter.mp shown).2, by simpa using passes⟩
  exact ⟨⟨fun c member => (kept c member).1, free⟩, fun c member => (kept c member).2⟩

theorem plain_of_names (plain : ∀ segment ∈ before, PlainSegment segment)
    (last : PlainSegment ending)
    (said : encode name ∈ (pathOf (pasted before (visible name) ending)).names)
    (count : (pathOf (pasted before (visible name) ending)).names.length = before.length + 2) :
    PlainSegment name := by
  have itself {piece : List Char} (free : PlainSegment piece)
      (decoded : percentDecode piece = encode name) : piece = name :=
    encode_injective (free.unaltered.escapeFree.percentDecode_eq.symm.trans decoded)
  -- What says the name is empty, stood in front of it, or is a piece of it and what follows.
  have clean : Unaltered name ∧ ∀ c ∈ name, endsAuthority c = false := by
    rw [names_pasted plain] at said
    obtain ⟨segment, inPath, decoded⟩ := List.mem_map.mp said
    obtain none | ⟨piece, source, rfl⟩ := mem_resolve inPath
    · cases none
    · rw [percentDecode_segment] at decoded
      rcases source with rfl | inText
      · exact plain_of_decoded (List.nil_sublist _) decoded
      · rcases List.mem_append.mp inText with early | late
        · obtain rfl := itself (plain piece early) decoded
          exact ⟨(plain piece early).unaltered, (plain piece early).whole⟩
        · rcases mem_pieces_append last.whole late with rfl | sublist
          · obtain rfl := itself last decoded
            exact ⟨last.unaltered, last.whole⟩
          · exact plain_of_decoded sublist decoded
  have shown : visible name = name := filter_of_kept clean.1.kept
  have moved (dots : name = ".".toList ∨ name = "..".toList) : False := by
    have short := length_names_dots plain last dots
    rw [shown] at count
    omega
  exact ⟨clean.1, clean.2, fun dot => moved (.inl dot), fun dots => moved (.inr dots)⟩

end VectorSearch.Url
