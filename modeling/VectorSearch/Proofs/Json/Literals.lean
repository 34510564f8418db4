import VectorSearch.Json.Outline
import VectorSearch.Proofs.Number.Literals

namespace VectorSearch.Json

open Number

/-! Every number of an outline stands in the text that the outline is of.

A token of a number is scanned off the text at some place. What is under construction holds no other
numbers than those of tokens that were there, and each step keeps that.
-/

/-- The characters of a number somewhere in a text. -/
def Literal (text literal : List Char) (numeral : Numeral) : Prop :=
  ∃ before after, text = before ++ (literal ++ after) ∧
    Numeral.scan (literal ++ after) = some (numeral, after)

/-- An outline and every outline inside of it. -/
inductive Outline.Inside (part : Outline) : Outline → Prop
  | self : Inside part part
  | item {held : List Outline} {closed : Bool} {item : Outline} (present : item ∈ held)
      (inside : Inside part item) : Inside part (.items held closed)
  | member {held : List (Option String × Outline)} {closed : Bool} {key : Option String}
      {value : Outline} (present : (key, value) ∈ held) (inside : Inside part value) :
      Inside part (.members held closed)

/-- An outline whose numbers are all among some tokens. -/
def Outline.Drawn (tokens : List Token) (outline : Outline) : Prop :=
  ∀ numeral, Inside (.number numeral) outline → Token.number numeral ∈ tokens

section Tokens

variable {text rest literal : List Char} {numeral : Numeral}

theorem Literal.mono (found : Literal rest literal numeral) (suffix : rest <:+ text) :
    Literal text literal numeral := by
  obtain ⟨before, after, rfl, scanned⟩ := found
  obtain ⟨first, rfl⟩ := suffix
  exact ⟨first ++ before, after, (List.append_assoc ..).symm, scanned⟩

theorem Literal.text_eq (found : Literal text literal numeral) :
    ProperWhole numeral.whole ∧ (numeral.isWhole = true → literal = numeral.text) := by
  obtain ⟨before, after, -, scanned⟩ := found
  obtain ⟨spelled, same, proper, whole⟩ := Numeral.scan_spells scanned
  exact ⟨proper, List.append_cancel_right same ▸ whole⟩

theorem scanText_suffix {spelled : Spelled} {content : Option String}
    (scanned : scanText text spelled = some (content, rest)) : rest <:+ text := by
  fun_induction scanText text spelled with
  | case1 => cases scanned
  | case2 tail spelled =>
      cases scanned
      exact List.suffix_cons _ _
  | case3 a b c d tail spelled ih =>
      obtain ⟨unit, -, later⟩ := Option.bind_eq_some_iff.mp scanned
      exact (ih unit later).trans ⟨['\\', 'u', a, b, c, d], rfl⟩
  | case4 c tail spelled _ ih =>
      obtain ⟨plain, -, later⟩ := Option.bind_eq_some_iff.mp scanned
      exact (ih plain later).trans ⟨['\\', c], rfl⟩
  | case5 => cases scanned
  | case6 c tail spelled _ _ _ _ ih => exact (ih scanned).trans (List.suffix_cons c tail)

theorem scanWord_suffix {letters : List Char} (scanned : scanWord letters text = some rest) :
    rest <:+ text := by
  fun_induction scanWord letters text with
  | case1 =>
      cases scanned
      exact List.suffix_rfl
  | case2 => cases scanned
  | case3 letters c tail ih => exact (ih scanned).trans (List.suffix_cons c tail)
  | case4 => cases scanned

theorem scanToken_suffix {token : Token} (scanned : scanToken text = some (token, rest)) :
    rest <:+ text := by
  unfold scanToken at scanned
  split at scanned
  case h_1 => cases scanned
  case h_2 | h_3 | h_4 | h_5 | h_6 | h_7 =>
    cases scanned
    exact List.suffix_cons _ _
  case h_8 tail =>
    obtain ⟨⟨content, after⟩, found, same⟩ := Option.map_eq_some_iff.mp scanned
    cases same
    exact (scanText_suffix found).trans (List.suffix_cons _ _)
  case h_9 | h_10 | h_11 =>
    obtain ⟨after, found, same⟩ := Option.map_eq_some_iff.mp scanned
    cases same
    exact (scanWord_suffix found).trans (List.suffix_cons _ _)
  case h_12 =>
    obtain ⟨⟨numeral, after⟩, found, same⟩ := Option.map_eq_some_iff.mp scanned
    cases same
    obtain ⟨literal, spelled, -⟩ := Numeral.scan_spells found
    exact ⟨literal, spelled.symm⟩

theorem scan_of_scanToken (scanned : scanToken text = some (.number numeral, rest)) :
    Numeral.scan text = some (numeral, rest) := by
  unfold scanToken at scanned
  split at scanned
  case h_12 =>
    obtain ⟨⟨numeral, after⟩, found, same⟩ := Option.map_eq_some_iff.mp scanned
    cases same
    exact found
  case h_8 | h_9 | h_10 | h_11 =>
    obtain ⟨_, -, same⟩ := Option.map_eq_some_iff.mp scanned
    cases same
  all_goals cases scanned

/-- The number of a token stands in the text. -/
theorem exists_literal (present : Token.number numeral ∈ tokens text) :
    ∃ literal, Literal text literal numeral := by
  fun_induction tokens text with
  | case1 => cases present
  | case2 c tail gap ih =>
      obtain ⟨literal, found⟩ := ih present
      exact ⟨literal, found.mono (List.suffix_cons c tail)⟩
  | case3 c tail => cases List.mem_singleton.mp present
  | case4 c tail gap token after scanned ih =>
      rcases List.mem_cons.mp present with rfl | later
      · have number := scan_of_scanToken scanned
        obtain ⟨literal, spelled, -⟩ := Numeral.scan_spells number
        exact ⟨literal, [], after, spelled, spelled ▸ number⟩
      · obtain ⟨literal, found⟩ := ih later
        exact ⟨literal, found.mono (scanToken_suffix scanned)⟩

end Tokens

variable {all : List Token}

namespace Outline

theorem Inside.trans {part outline whole : Outline} (first : Inside part outline)
    (second : Inside outline whole) : Inside part whole := by
  induction second with
  | self => exact first
  | item present _ ih => exact .item present ih
  | member present _ ih => exact .member present ih

theorem Drawn.inside {part whole : Outline} (drawn : whole.Drawn all) (inside : part.Inside whole) :
    part.Drawn all :=
  fun numeral within => drawn numeral (within.trans inside)

theorem drawn_items_iff {held : List Outline} {closed : Bool} :
    (Outline.items held closed).Drawn all ↔ ∀ item ∈ held, item.Drawn all := by
  constructor
  · exact fun drawn item present => drawn.inside (.item present .self)
  · rintro drawn numeral (_ | ⟨present, inside⟩)
    exact drawn _ present numeral inside

theorem drawn_members_iff {held : List (Option String × Outline)} {closed : Bool} :
    (Outline.members held closed).Drawn all ↔ ∀ member ∈ held, member.2.Drawn all := by
  constructor
  · exact fun drawn member present => drawn.inside (.member present .self)
  · rintro drawn numeral (_ | _ | ⟨present, inside⟩)
    exact drawn _ present numeral inside

end Outline

namespace Builder

def FrameDrawn (all : List Token) : Frame → Prop
  | .items held => ∀ item ∈ held, item.Drawn all
  | .members held => ∀ member ∈ held, member.2.Drawn all
  | .member held _ => ∀ member ∈ held, member.2.Drawn all

/-- What is under construction holds only numbers among some tokens. -/
def Drawn (all : List Token) : Builder → Prop
  | .within _ frames => ∀ frame ∈ frames, FrameDrawn all frame
  | .done value _ => value.Drawn all

theorem drawn_getD_missing {value : Option Outline} (drawn : ∀ given ∈ value, given.Drawn all) :
    (value.getD .missing).Drawn all := by
  cases value with
  | none => exact fun _ inside => nomatch inside
  | some given => exact drawn given rfl

theorem drawn_abandon {frames : List Frame} {value : Option Outline}
    (frameDrawn : ∀ frame ∈ frames, FrameDrawn all frame)
    (drawn : ∀ given ∈ value, given.Drawn all) : (abandon frames value).Drawn all := by
  fun_induction abandon frames value with
  | case1 value => exact drawn_getD_missing drawn
  | case2 held frames value ih =>
      obtain ⟨first, later⟩ := List.forall_mem_cons.mp frameDrawn
      refine ih later ?_
      rintro _ ⟨⟩
      refine Outline.drawn_items_iff.mpr fun item present => ?_
      rcases List.mem_append.mp (List.mem_reverse.mp present) with given | earlier
      · exact drawn item (Option.mem_toList.mp given)
      · exact first item earlier
  | case3 held frames value ih =>
      obtain ⟨first, later⟩ := List.forall_mem_cons.mp frameDrawn
      refine ih later ?_
      rintro _ ⟨⟩
      exact Outline.drawn_members_iff.mpr fun member present =>
        first member (List.mem_reverse.mp present)
  | case4 held key frames value ih =>
      obtain ⟨first, later⟩ := List.forall_mem_cons.mp frameDrawn
      refine ih later ?_
      rintro _ ⟨⟩
      refine Outline.drawn_members_iff.mpr fun member present => ?_
      rcases List.mem_cons.mp (List.mem_reverse.mp present) with rfl | earlier
      · exact drawn_getD_missing drawn
      · exact first member earlier

theorem drawn_refuse {frames : List Frame} (drawn : ∀ frame ∈ frames, FrameDrawn all frame) :
    (refuse frames).Drawn all :=
  drawn_abandon drawn nofun

theorem drawn_supply {value : Outline} {frames : List Frame} (valueDrawn : value.Drawn all)
    (drawn : ∀ frame ∈ frames, FrameDrawn all frame) : (supply value frames).Drawn all := by
  cases frames with
  | nil => exact valueDrawn
  | cons frame frames =>
      obtain ⟨first, later⟩ := List.forall_mem_cons.mp drawn
      cases frame with
      | items held =>
          exact List.forall_mem_cons.mpr ⟨List.forall_mem_cons.mpr ⟨valueDrawn, first⟩, later⟩
      | members held => exact drawn_abandon drawn nofun
      | member held key =>
          exact List.forall_mem_cons.mpr ⟨List.forall_mem_cons.mpr ⟨valueDrawn, first⟩, later⟩

theorem drawn_open? {token : Token} {frames : List Frame} {builder : Builder}
    (present : token ∈ all) (drawn : ∀ frame ∈ frames, FrameDrawn all frame)
    (opened : open? token frames = some builder) : builder.Drawn all := by
  cases token with
  | openArray | openObject =>
      cases opened
      exact List.forall_mem_cons.mpr ⟨nofun, drawn⟩
  | null | bool value | text content =>
      cases opened
      exact drawn_supply (fun _ inside => nomatch inside) drawn
  | number numeral =>
      cases opened
      refine drawn_supply (fun other inside => ?_) drawn
      cases inside
      exact present
  | closeArray | closeObject | comma | colon | bad => cases opened

theorem drawn_step {builder : Builder} {token : Token} (present : token ∈ all)
    (drawn : builder.Drawn all) : (builder.step token).Drawn all := by
  have opens : ∀ frames : List Frame, (∀ frame ∈ frames, FrameDrawn all frame) →
      ((open? token frames).getD (refuse frames)).Drawn all := by
    intro frames framesDrawn
    cases opened : open? token frames with
    | none => exact drawn_refuse framesDrawn
    | some builder => exact drawn_open? present framesDrawn opened
  unfold step
  split
  next => exact drawn
  next =>
    split
    case h_1 | h_3 =>
      obtain ⟨first, later⟩ := List.forall_mem_cons.mp drawn
      exact drawn_supply (Outline.drawn_items_iff.mpr fun item held =>
        first item (List.mem_reverse.mp held)) later
    case h_2 | h_4 =>
      obtain ⟨first, later⟩ := List.forall_mem_cons.mp drawn
      exact drawn_supply (Outline.drawn_members_iff.mpr fun member held =>
        first member (List.mem_reverse.mp held)) later
    case h_7 | h_8 =>
      obtain ⟨first, later⟩ := List.forall_mem_cons.mp drawn
      exact List.forall_mem_cons.mpr ⟨first, later⟩
    case h_5 | h_6 | h_9 => exact drawn
    case h_10 | h_11 => exact opens _ drawn
    case h_12 => exact drawn_refuse drawn

theorem drawn_foldl {tokens : List Token} {builder : Builder}
    (present : ∀ token ∈ tokens, token ∈ all) (drawn : builder.Drawn all) :
    (tokens.foldl step builder).Drawn all := by
  induction tokens generalizing builder with
  | nil => exact drawn
  | cons token rest ih =>
      obtain ⟨here, later⟩ := List.forall_mem_cons.mp present
      exact ih later (drawn_step here drawn)

theorem drawn_finish {builder : Builder} (drawn : builder.Drawn all) :
    builder.finish.1.Drawn all := by
  cases builder with
  | within expected frames => exact drawn_abandon drawn nofun
  | done value alone => exact drawn

end Builder

/-- The numbers of an outline are literals of the text. -/
theorem literal_of_inside {text : String} {numeral : Numeral}
    (inside : (Outline.number numeral).Inside (outline text).1) :
    ∃ literal, Literal text.toList literal numeral := by
  have drawn : (outline text).1.Drawn (tokens text.toList) :=
    Builder.drawn_finish (Builder.drawn_foldl (fun _ present => present) nofun)
  exact exists_literal (drawn numeral inside)

end VectorSearch.Json
