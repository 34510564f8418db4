import VectorSearch.Proofs.Json.Reading
import VectorSearch.Settings.Loading

namespace VectorSearch.Settings

variable {lookup : String → Option String} {text : String} {settings : Settings}
  {layout : PayloadLayout} {payload : PayloadSettings}

theorem ofText_eq_ok (accepted : ofText lookup text = .ok settings) :
    settings.validate = .ok () ∧ ∃ value, ofJson? .toml value = some settings := by
  rw [ofText] at accepted
  split at accepted
  next => cases accepted
  next =>
    split at accepted
    next => cases accepted
    next read =>
      split at accepted
      next => cases accepted
      next valid =>
        cases accepted
        obtain ⟨value, -, held⟩ := Option.bind_eq_some_iff.mp read
        exact ⟨valid, value, held⟩

theorem validate_of_ofText (accepted : ofText lookup text = .ok settings) :
    settings.validate = .ok () :=
  (ofText_eq_ok accepted).1

theorem port?_lt {value : Json} {port : Nat} (read : port? value = some port) : port < 65536 := by
  simp only [port?, Option.bind_eq_bind, Option.bind_eq_some_iff] at read
  obtain ⟨number, -, bounded⟩ := read
  split at bounded
  next small =>
    cases bounded
    exact small
  next => cases bounded

theorem payload?_port_lt {source : Source} {value : Json} {settings : PayloadSettings}
    (read : payload? source value = some settings) : settings.port < 65536 := by
  simp only [payload?, Option.bind_eq_bind, Option.bind_eq_some_iff] at read
  obtain ⟨parts, -, read⟩ := read
  split at read
  next host port _ _ _ _ _ =>
    simp only [Option.bind_eq_some_iff] at read
    obtain ⟨_, -, number, given, _, -, _, -, _, -, _, -, _, -, ⟨⟩⟩ := read
    cases port with
    | none =>
        cases given
        exact Nat.lt_of_lt_of_le (Nat.lt_succ_self 6767) (by decide)
    | some value => exact port?_lt given
  next => cases read

theorem store?_port_lt {value : Json} {settings : PayloadSettings}
    (read : store? value = some (.payload layout settings)) : settings.port < 65536 := by
  have named {kind : String} {body : Json}
      (read : storeOf? kind body = some (.payload layout settings)) : settings.port < 65536 := by
    rw [storeOf?] at read
    split at read
    next =>
      obtain ⟨_, -, wrong⟩ := Option.map_eq_some_iff.mp read
      cases wrong
    next =>
      simp only [Option.bind_eq_bind, Option.bind_eq_some_iff] at read
      obtain ⟨_, -, _, payload, ⟨⟩⟩ := read
      exact payload?_port_lt payload
  unfold store? at read
  split at read
  next =>
    split at read
    next => exact named read
    next => cases read
  next => exact named read
  next => cases read

theorem ofJson?_port_lt {source : Source} {value : Json}
    (read : ofJson? source value = some settings)
    (stored : settings.store = .payload layout payload) : payload.port < 65536 := by
  simp only [ofJson?, Option.bind_eq_bind, Option.bind_eq_some_iff] at read
  obtain ⟨parts, -, read⟩ := read
  split at read
  next store _ _ _ =>
    simp only [Option.bind_eq_some_iff] at read
    obtain ⟨_, -, _, -, chosen, given, _, -, _, -, ⟨⟩⟩ := read
    subst stored
    cases store with
    | none =>
        cases given
        exact Nat.lt_of_lt_of_le (Nat.lt_succ_self 6767) (by decide)
    | some value => exact store?_port_lt given
  next => cases read

theorem port_lt_of_ofText (accepted : ofText lookup text = .ok settings)
    (stored : settings.store = .payload layout payload) : payload.port < 65536 := by
  obtain ⟨-, value, held⟩ := ofText_eq_ok accepted
  exact ofJson?_port_lt held stored

theorem host_ne_empty_of_ofText (accepted : ofText lookup text = .ok settings)
    (stored : settings.store = .payload layout payload) : payload.host ≠ "" := by
  have valid := validate_of_ofText accepted
  simp only [validate, Json.bind_eq_ok_iff, stored, checkStore] at valid
  obtain ⟨_, ⟨_, shown, _⟩, _⟩ := valid
  intro empty
  rw [empty] at shown
  cases shown

end VectorSearch.Settings
