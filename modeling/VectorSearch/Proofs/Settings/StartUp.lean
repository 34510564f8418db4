import VectorSearch.Http.Script
import VectorSearch.Proofs.Settings.Accepted
import VectorSearch.Proofs.Settings.Address
import VectorSearch.Proofs.Url.Host

namespace VectorSearch

open Number Text Url

namespace PayloadSettings

variable {settings : PayloadSettings} {layout : PayloadLayout} {negation : NegationStyle}

/-- The host and the port that are read from an address. -/
def readHost (settings : PayloadSettings) : List Char × List Char :=
  hostAndPort ((settings.authority.dropWhile (isSlash true)).takeWhile (!endsAuthority ·))

/-- A server can be asked for under the address of the settings. -/
structure NamesServer (settings : PayloadSettings) : Prop where
  host : (Host.ofText settings.readHost.1).isOk = true
  digits : settings.readHost.2.tail.all Char.isDigit = true
  small : digitsValue settings.readHost.2.tail ≤ 65535

theorem parse_base_isOk_iff (settings : PayloadSettings) :
    (Url.parse settings.base).isOk = true ↔ settings.NamesServer := by
  have spelled : settings.base = String.ofList ("http://".toList ++
      (settings.host.toList ++ ':' :: Nat.toDigits 10 settings.port)) := by
    rw [← settings.toList_base, String.ofList_toList]
  rw [spelled, parse_http_isOk fun _ => lt_last, visible_authority, readAuthority_isOk_iff]
  exact ⟨fun both => ⟨both.1, both.2.1, both.2.2⟩, fun names => ⟨names.host, names.digits, names.small⟩⟩

theorem store_isOk (settings : PayloadSettings) (layout : PayloadLayout) (negation : NegationStyle) :
    (settings.store layout negation).isOk = (Url.parse settings.base).isOk := by
  rw [PayloadSettings.store, PayloadStore.ofBase]
  cases Url.parse settings.base <;> rfl

theorem store_eq_error {reason : StoreError} (refused : settings.store layout negation = .error reason) :
    ∃ fault : Fault, reason =
      .invalidRequest ("invalid store URL " ++ settings.base ++ ": " ++ fault.message) := by
  rw [PayloadSettings.store, PayloadStore.ofBase] at refused
  split at refused
  next => cases refused
  next fault _ => exact ⟨fault, (Except.error.inj refused).symm⟩

theorem readHost_plain (plain : Domain.PlainName settings.host.toList) :
    settings.readHost = (settings.host.toList, ':' :: Nat.toDigits 10 settings.port) := by
  have passes (c : Char) (member : c ∈ settings.host.toList) : (!Domain.isForbidden c) = true := by
    rw [plain.allowed c member]
    rfl
  have kept : ∀ c ∈ settings.host.toList, isLineBreakOrTab c = false :=
    fun c member => @isLineBreakOrTab_of_test (!Domain.isForbidden ·) c (by decide) (passes c member)
  have named : settings.NamesHost :=
    fun c member => @endsAuthority_of_test (!Domain.isForbidden ·) c (by decide) (passes c member)
  have bare := bare_authority named
  have spelled : settings.authority =
      settings.host.toList ++ ':' :: Nat.toDigits 10 settings.port :=
    congrArg (· ++ ':' :: Nat.toDigits 10 settings.port) (filter_of_kept kept)
  have whole : (settings.authority.dropWhile (isSlash true)).takeWhile (!endsAuthority ·) =
      settings.authority := by
    have begins := dropWhile_authority named []
    rw [List.append_nil] at begins
    rw [begins]
    exact List.takeWhile_eq_self_iff.mpr fun c member => by rw [bare c member]; rfl
  have noUser : '@' ∉ settings.authority := by
    rw [spelled]
    intro member
    rcases List.mem_append.mp member with inHost | inPort
    · cases plain.allowed '@' inHost
    · rcases List.mem_cons.mp inPort with colon | digit
      · cases colon
      · cases isDigit_port digit
  have host : (splitUserinfo settings.authority).2 = settings.authority := by
    rw [splitUserinfo, if_neg (by simpa using noUser)]
  rw [readHost, whole, hostAndPort, host, spelled, splitHost_plain plain]

theorem namesServer_iff_plain (plain : Domain.PlainName settings.host.toList)
    (present : settings.host ≠ "") (small : settings.port ≤ 65535) :
    settings.NamesServer ↔
      (Host.endsInNumber (settings.host.toList.map Char.toLower) = true →
        (Host.ipv4? (settings.host.toList.map Char.toLower)).isSome = true) := by
  have read := readHost_plain plain
  have nonempty : settings.host.toList ≠ [] := by simpa using present
  have host := Host.ofText_plain_isOk_iff plain
  have digits : (Nat.toDigits 10 settings.port).all Char.isDigit = true :=
    List.all_eq_true.mpr fun c => isDigit_port
  have value : digitsValue (Nat.toDigits 10 settings.port) = settings.port :=
    Nat.ofDigitChars_ten_toDigits
  constructor
  · intro names
    have accepted := names.host
    rw [read] at accepted
    exact (host.mp accepted).2
  · intro numeric
    refine ⟨?_, ?_, ?_⟩ <;> rw [read]
    · exact host.mpr ⟨nonempty, numeric⟩
    · exact digits
    · exact value.trans_le small

end PayloadSettings

namespace StoreSettings

/-- What a store needs to be set up: a payload store must name its server. -/
def CanStart : StoreSettings → Prop
  | .payload _ settings => settings.NamesServer
  | .memory _ => True

end StoreSettings

theorem StoreSettings.backend_isOk_iff (settings : StoreSettings) (negation : NegationStyle)
    (network : Http.Network σ) :
    (settings.backend negation network).isOk = true ↔ settings.CanStart := by
  cases settings with
  | memory _ => exact iff_of_true rfl trivial
  | payload layout payload =>
      have built : ((StoreSettings.payload layout payload).backend negation network).isOk =
          (payload.store layout negation).isOk := by
        rw [StoreSettings.backend]
        cases payload.store layout negation <;> rfl
      rw [built, payload.store_isOk]
      exact payload.parse_base_isOk_iff

theorem Settings.collection_isOk_iff (settings : Settings) (network : Http.Network σ) :
    (settings.collection network).isOk = true ↔ settings.store.CanStart := by
  rw [← settings.store.backend_isOk_iff settings.search.negation network, Settings.collection]
  cases settings.store.backend settings.search.negation network <;> exact Iff.rfl

theorem Settings.collection_error_iff {settings : Settings} {network : Http.Network σ}
    {reason : StoreError} :
    settings.collection network = .error reason ↔
      ∃ layout payload, settings.store = .payload layout payload ∧
        payload.store layout settings.search.negation = .error reason := by
  rw [Settings.collection, StoreSettings.backend.eq_def]
  cases settings.store with
  | memory _ => exact iff_of_false nofun fun ⟨_, _, stored, _⟩ => nomatch stored
  | payload layout payload =>
      cases built : payload.store layout settings.search.negation <;> simp [built]

/-- Valid settings set up a collection exactly if their store can start: always in memory, and over
a network where the host that is read from the address is one. Otherwise they are refused as an
invalid address. A host that is a name in ASCII is refused only if it ends in a number and is no
address. -/
theorem Settings.collection_of_ofText {lookup : String → Option String} {text : String}
    {settings : Settings} (accepted : Settings.ofText lookup text = .ok settings)
    (network : Http.Network σ) :
    ((settings.collection network).isOk = true ↔ settings.store.CanStart) ∧
    (∀ reason, settings.collection network = .error reason →
      ∃ layout payload, ∃ fault : Url.Fault, settings.store = .payload layout payload ∧
        reason = .invalidRequest ("invalid store URL " ++ payload.base ++ ": " ++ fault.message)) ∧
    ∀ layout payload, settings.store = .payload layout payload →
      Domain.PlainName payload.host.toList →
      ((settings.collection network).isOk = true ↔
        (Url.Host.endsInNumber (payload.host.toList.map Char.toLower) = true →
          (Url.Host.ipv4? (payload.host.toList.map Char.toLower)).isSome = true)) := by
  refine ⟨settings.collection_isOk_iff network, ?_, ?_⟩
  · intro reason refused
    obtain ⟨layout, payload, stored, failed⟩ := Settings.collection_error_iff.mp refused
    obtain ⟨fault, same⟩ := PayloadSettings.store_eq_error failed
    exact ⟨layout, payload, fault, stored, same⟩
  · intro layout payload stored plain
    have small := Settings.port_lt_of_ofText accepted stored
    have present := Settings.host_ne_empty_of_ofText accepted stored
    rw [settings.collection_isOk_iff network, stored]
    exact PayloadSettings.namesServer_iff_plain plain present (Nat.le_of_lt_succ small)

theorem Settings.collection_of_ofText_capitals :
    let text := "[store]\ntype = \"cosline\"\nhost = \"Vectors-1.Example.ORG\"\nport = 65535\n"
    let payload : PayloadSettings :=
      { Settings.defaultPayload with host := "Vectors-1.Example.ORG", port := 65535 }
    let settings : Settings := { Settings.default with store := .payload .versioned payload }
    Settings.ofText (fun _ => none) text = .ok settings ∧
      Domain.PlainName payload.host.toList ∧ settings.store.CanStart ∧
      (settings.collection Http.Script.network).isOk = true := by
  intro text payload settings
  have accepted : Settings.ofText (fun _ => none) text = .ok settings := by decide +kernel
  have plain : Domain.PlainName payload.host.toList := by decide +kernel
  obtain ⟨starts, -, named⟩ := Settings.collection_of_ofText accepted Http.Script.network
  have numberless : Url.Host.endsInNumber (payload.host.toList.map Char.toLower) = false := by
    decide +kernel
  have built := (named .versioned payload rfl plain).mpr fun numeric => by
    rw [numberless] at numeric
    contradiction
  exact ⟨accepted, plain, starts.mp built, built⟩

/-- A host with a space in it is valid, and no collection can be set up with it. -/
theorem Settings.collection_refused_for_space :
    let text := "[store]\ntype = \"similake\"\nhost = \"a b\"\n"
    let payload : PayloadSettings := { Settings.defaultPayload with host := "a b" }
    let settings : Settings := { Settings.default with store := .payload .root payload }
    Settings.ofText (fun _ => none) text = .ok settings ∧
      settings.collection Http.Script.network = .error
        (.invalidRequest "invalid store URL http://a b:6767: invalid international domain name") ∧
      ¬settings.store.CanStart := by
  intro text payload settings
  have accepted : Settings.ofText (fun _ => none) text = .ok settings := by decide +kernel
  have unread : payload.store .root .legacy = .error
      (.invalidRequest "invalid store URL http://a b:6767: invalid international domain name") := by
    decide +kernel
  have refused := (@Settings.collection_error_iff _ settings Http.Script.network _).mpr
    ⟨.root, payload, rfl, unread⟩
  refine ⟨accepted, refused, fun starts => ?_⟩
  have built := (settings.collection_isOk_iff Http.Script.network).mpr starts
  rw [refused] at built
  cases built

end VectorSearch
