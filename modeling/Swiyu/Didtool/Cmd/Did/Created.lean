import Swiyu.Didtool.Cmd.Did.Announced
import Swiyu.Didtool.Cmd.Did.Genesis
import Swiyu.Didtool.History

/-!
# What a creation leaves

A creation that succeeds leaves a log that is accepted, and its keys in the key store, if the URL is
an ordinary one and the SCID is found in the preliminary entry nowhere but where it is put.

## Main definitions

- `Swiyu.Create.IsPlainUrl`: the URLs from which DIDs are built that are read back.
- `Swiyu.Create.Drafts`: the preliminary entry of a call.
- `Swiyu.Create.Ordinary`: what is asked of a call.

## Main results

- `Swiyu.Create.genesis_of_prepare`: the genesis entry is accepted for the DID.
- `Swiyu.Create.holds_of_cmdCreate`: the history of the DID begins with its keys.
-/

namespace Swiyu

open Json

namespace Create

/-! ## Plain URLs -/

/-- A character that is kept by the placeholder's replacement and by the trimming of lines. -/
def IsPlainChar (c : Char) : Prop := c ≠ '{' ∧ Text.isWhitespace c = false

/-- A URL without braces and white space, with at most one colon in its host. -/
structure IsPlainUrl (url : Text) : Prop where
  chars : ∀ c ∈ url, IsPlainChar c
  port : ∃ rest, url = Text.lit "https://" ++ rest ∧ (splitHost rest).1.count ':' ≤ 1

variable {url host path rest : Text}

theorem mem_of_mem_splitHost {c : Char} (h : c ∈ (splitHost rest).1 ∨ c ∈ (splitHost rest).2) :
    c ∈ rest := by
  unfold splitHost at h
  cases hsplit : Text.splitOnce '/' rest with
  | none =>
    rw [hsplit] at h
    exact h.elim id fun h => absurd h List.not_mem_nil
  | some parts =>
    rw [hsplit] at h
    rw [(Text.splitOnce_eq_some_iff.mp hsplit).1, List.mem_append, List.mem_cons]
    exact h.imp id .inr

/-- The domain of a host with a port has no colon. -/
theorem colon_notMem_didHost (h : host.count ':' ≤ 1) : ':' ∉ didHost host := by
  cases hport : Text.splitOnce ':' host with
  | none =>
    have hcolon := Text.splitOnce_eq_none_iff.mp hport
    rwa [didHost_of_notMem hcolon]
  | some parts =>
    obtain ⟨hparts, hname⟩ := Text.splitOnce_eq_some_iff.mp hport
    -- The colon before the port is the only one.
    rw [hparts, List.count_append, List.count_cons_self] at h
    have hafter : ':' ∉ parts.2 := List.count_eq_zero.mp (by omega)
    have hpercent : ':' ∉ Text.lit "%3A" := by decide
    rw [hparts, didHost_append hname]
    simp only [List.mem_append, not_or]
    exact ⟨⟨hname, hpercent⟩, hafter⟩

/-- The domain consists of characters of the host and of a percent-encoded colon. -/
theorem plain_didHost (h : ∀ c ∈ host, IsPlainChar c) : ∀ c ∈ didHost host, IsPlainChar c := by
  intro c hc
  cases hport : Text.splitOnce ':' host with
  | none =>
    rw [didHost_of_notMem (Text.splitOnce_eq_none_iff.mp hport)] at hc
    exact h c hc
  | some parts =>
    obtain ⟨hparts, hname⟩ := Text.splitOnce_eq_some_iff.mp hport
    have hpercent : ∀ c ∈ Text.lit "%3A", c ≠ '{' ∧ Text.isWhitespace c = false :=
      Text.forall_mem_of_all (by decide)
    rw [hparts] at h hc
    rw [didHost_append hname] at hc
    simp only [List.mem_append, List.mem_cons] at h hc
    rcases hc with (hc | hc) | hc
    · exact h c (.inl hc)
    · exact hpercent c hc
    · exact h c (.inr (.inr hc))

/-- The path of a DID consists of characters of the path of the URL and of colons. -/
theorem plain_didPath (h : ∀ c ∈ path, IsPlainChar c) :
    ∀ p ∈ didPath (pathSegments path), ∀ c ∈ p, IsPlainChar c := by
  intro p hp c hc
  unfold didPath at hp
  split_ifs at hp
  · cases hp
  obtain rfl := Option.some.inj hp
  rcases Text.mem_of_mem_intercalate hc with rfl | ⟨seg, hseg, hc⟩
  · exact ⟨by decide, by decide⟩
  have hsplit : seg ∈ Text.split '/' path := by
    unfold pathSegments at hseg
    dsimp only at hseg
    split_ifs at hseg
    · exact (List.mem_filter.mp (List.dropLast_subset _ hseg)).1
    · exact (List.mem_filter.mp hseg).1
  have hjoin := Text.mem_intercalate (c := '/') hsplit hc
  rw [Text.intercalate_split] at hjoin
  exact h c hjoin

/-- The domain and the path that are taken from a plain URL. -/
theorem IsPlainUrl.components (h : IsPlainUrl url) {domain : Text} {didPath? : Option Text}
    (hcomponents : urlToDidComponents url = .ok (domain, didPath?)) :
    ':' ∉ domain ∧ (∀ c ∈ domain, IsPlainChar c) ∧ ∀ p ∈ didPath?, ∀ c ∈ p, IsPlainChar c := by
  obtain ⟨rest, rfl, hport⟩ := h.port
  obtain ⟨-, rfl, rfl⟩ := urlToDidComponents_eq_ok_iff.mp hcomponents
  have hrest : ∀ c ∈ rest, IsPlainChar c := fun c hc => h.chars c (List.mem_append_right _ hc)
  refine ⟨colon_notMem_didHost hport, plain_didHost fun c hc => ?_, plain_didPath fun c hc => ?_⟩
  · exact hrest c (mem_of_mem_splitHost (.inl hc))
  · exact hrest c (mem_of_mem_splitHost (.inr hc))

/-- The characters of a SCID are letters and digits. -/
theorem plain_deriveScid (X : Crates) (v : Value) : ∀ c ∈ deriveScid X v, IsPlainChar c := by
  have hall : ∀ c ∈ Base58.alphabet, c ≠ '{' ∧ Text.isWhitespace c = false :=
    Text.forall_mem_of_all (by decide +kernel)
  exact fun c hc => hall c (mem_alphabet_of_mem_hashLogEntry X hc)

/-- A DID with plain parts has a plain text. -/
theorem plain_toText {did : DID} {scid : Text} (hscid : did.scid = some scid)
    (hplain : ∀ c ∈ scid, IsPlainChar c) (hdomain : ∀ c ∈ did.domain, IsPlainChar c)
    (hpath : ∀ p ∈ did.path, ∀ c ∈ p, IsPlainChar c) : ∀ c ∈ did.toText, IsPlainChar c := by
  have hcolon : IsPlainChar ':' := ⟨by decide, by decide⟩
  have hmethod : ∀ c ∈ did.method.prefixText, c ≠ '{' ∧ Text.isWhitespace c = false := by
    cases did.method <;> exact Text.forall_mem_of_all (by decide)
  intro c hc
  rw [did.toText_eq_append, hscid, Option.getD_some] at hc
  simp only [List.mem_append, List.mem_cons] at hc
  rcases hc with (hc | hc) | rfl | hc | hc
  · exact hmethod c hc
  · exact hplain c hc
  · exact hcolon
  · exact hdomain c hc
  · cases hpath' : did.path with
    | none =>
      rw [hpath'] at hc
      exact absurd hc List.not_mem_nil
    | some p =>
      rw [hpath', Option.map_some, Option.getD_some, List.mem_cons] at hc
      rcases hc with rfl | hc
      · exact hcolon
      · exact hpath p hpath' c hc

/-! ## The command -/

variable {X : ToolCrates} {env : Env} {w w' : World}

variable (X env) in
/-- The preliminary entry of a call: it has the DID with the placeholder, and the keys. -/
def Drafts (args : CreateArgs) (w : World) (prelim : Value) : Prop :=
  ∃ url space domain path staged placeholder now w₁ w₂ w₃,
    resolveUrl env args w = (.ok (url, space), w₁) ∧ urlToDidComponents url = .ok (domain, path) ∧
      prepareKeys X env args w₁ = (.ok staged, w₂) ∧
      buildDid args.format none domain path = .ok placeholder ∧
      (nowIso8601 X env : CreateCommand Text) w₂ = (.ok now, w₃) ∧
      prelim = preliminary X args.format staged placeholder now

/-- The runs of its parts tell what a call drafts. -/
theorem Drafts.eq {args : CreateArgs} {prelim : Value} {url domain now : Text}
    {space : Option Space} {path : Option Text} {staged : StagedKeys} {placeholder : DID}
    {w₁ w₂ w₃ : World}
    (h : Drafts X env args w prelim) (hurl : resolveUrl env args w = (.ok (url, space), w₁))
    (hcomponents : urlToDidComponents url = .ok (domain, path))
    (hkeys : prepareKeys X env args w₁ = (.ok staged, w₂))
    (hplaceholder : buildDid args.format none domain path = .ok placeholder)
    (hnow : (nowIso8601 X env : CreateCommand Text) w₂ = (.ok now, w₃)) :
    prelim = preliminary X args.format staged placeholder now := by
  obtain ⟨url', space', domain', path', staged', placeholder', now', w₁', w₂', w₃', hurl',
    hcomponents', hkeys', hplaceholder', hnow', rfl⟩ := h
  obtain ⟨hpair, rfl⟩ := Prod.mk.inj (hurl.symm.trans hurl')
  obtain ⟨rfl, -⟩ := Prod.mk.inj (Except.ok.inj hpair)
  obtain ⟨rfl, rfl⟩ := Prod.mk.inj (Except.ok.inj (hcomponents.symm.trans hcomponents'))
  obtain ⟨hstaged, rfl⟩ := Prod.mk.inj (hkeys.symm.trans hkeys')
  obtain rfl := Except.ok.inj hstaged
  obtain rfl := Except.ok.inj (hplaceholder.symm.trans hplaceholder')
  obtain rfl := Except.ok.inj (Prod.mk.inj (hnow.symm.trans hnow')).1
  rfl

variable (X env) in
/-- A call for a `did:tdw` 0.3 with a plain URL, whose SCID is in the text of the preliminary entry
only where the placeholder is. -/
structure Ordinary (args : CreateArgs) (w : World) : Prop where
  format : args.format = .tdw03
  url {url : Text} {space : Option Space} {w' : World} :
    resolveUrl env args w = (.ok (url, space), w') → IsPlainUrl url
  scid {prelim : Value} : Drafts X env args w prelim →
    Text.OccursOnlyAt scidPlaceholder (deriveScid X.toCrates prelim) (prelim.print X.f64)

variable {args : CreateArgs}

/-- The genesis entry of a plain domain and path is signed, and accepted for its DID, which is read
back from its text. -/
theorem genesis_of_buildGenesis (hX : X.Lawful) {staged : StagedKeys} {domain now : Text}
    {path : Option Text} {placeholder : DID} {genesis : Genesis}
    (hplain : ':' ∉ domain ∧ (∀ c ∈ domain, IsPlainChar c) ∧ ∀ p ∈ path, ∀ c ∈ p, IsPlainChar c)
    (hplaceholder : buildDid .tdw03 none domain path = .ok placeholder)
    (hocc : Text.OccursOnlyAt scidPlaceholder
      (deriveScid X.toCrates (preliminary X .tdw03 staged placeholder now))
      ((preliminary X .tdw03 staged placeholder now).print X.f64))
    (h : buildGenesis X .tdw03 staged domain path placeholder now = .ok genesis) : ∃ scid,
      genesis.value = signGenesis X .tdw03 staged now
        (genesisForm X staged scid now genesis.did.toText) ∧
      DID.fromStr genesis.did.toText = .ok genesis.did ∧
      Text.trim genesis.did.toText = genesis.did.toText ∧
      verifyLog X.toCrates ⟨[genesisEntry X staged scid now genesis.did.toText]⟩ genesis.did =
        .ok () := by
  obtain ⟨hcolon, hdomain, hpath⟩ := hplain
  simp only [buildGenesis, Except.bind_eq_ok_iff, Except.mapError_eq_ok_iff,
    X.fromStr_eq_ok_iff] at h
  obtain ⟨entryValue, hentry, did, hdid, hgenesis⟩ := h
  obtain rfl := Except.ok.inj hgenesis
  dsimp only
  -- The derived SCID has neither colons nor characters that JSON escapes.
  have hscidPlain := plain_deriveScid X.toCrates (preliminary X .tdw03 staged placeholder now)
  have hinert := inert_hashLogEntry X.toCrates (preliminary X .tdw03 staged placeholder now)
  have hderived : deriveScid X.toCrates (preliminary X .tdw03 staged placeholder now) ≠ [] ∧
      ':' ∉ deriveScid X.toCrates (preliminary X .tdw03 staged placeholder now) := by
    refine ⟨fun hnil => ?_, notMem_hashLogEntry X.toCrates (by decide)⟩
    have hhead := head_hashLogEntry X.toCrates (preliminary X .tdw03 staged placeholder now)
    rw [show hashLogEntry _ _ = [] from hnil] at hhead
    cases hhead
  have hprelim : (preliminary X .tdw03 staged placeholder now).PlainWithin 6 :=
    plainWithin_preliminary placeholder
  generalize hscid : deriveScid X.toCrates (preliminary X .tdw03 staged placeholder now) = scid at *
  obtain ⟨hmethod₀, hnone, hdomain₀, hpath₀⟩ := DID.validateAndBuild_eq_ok_iff.mp hplaceholder
  obtain ⟨hmethod, hsome, rfl, rfl⟩ := DID.validateAndBuild_eq_ok_iff.mp hdid
  -- The DID of the placeholder becomes the DID with the SCID.
  have hreplace (t : Text) (ht : '{' ∉ t) :
      Text.replace scidPlaceholder scid (placeholder.toText ++ t) = did.toText ++ t := by
    refine replace_toText hnone hsome (hmethod.trans hmethod₀.symm) hdomain₀.symm hpath₀.symm ?_ ht
    rw [hdomain₀, hpath₀]
    exact ⟨fun hc => (hdomain _ hc).1 rfl, fun p hp hc => (hpath p hp _ hc).1 rfl⟩
  have hform : substituteScid scid (preliminary X .tdw03 staged placeholder now) =
      genesisForm X staged scid now did.toText := substituteScid_preliminary hreplace
  -- The text with the SCID in it is parsed back as the form, because nothing else is replaced.
  have hvalue : entryValue = genesisForm X staged scid now did.toText := by
    have hfloats : ∀ x ∈ (preliminary X .tdw03 staged placeholder now).floats,
        X.f64.ReadsBack x := by simp [hprelim.floats]
    rw [Value.parse_replace_print inert_scidPlaceholder (hscid ▸ hinert.plain) hfloats,
      if_pos (hprelim.depth.trans (by decide))] at hentry
    rw [← hform]
    exact (Option.some.inj hentry).symm
  rw [hvalue]
  refine ⟨scid, rfl, (DID.fromStr_toText_iff hsome).mpr ⟨hderived.1, hderived.2, hcolon⟩, ?_, ?_⟩
  · exact Text.trim_of_forall fun c hc => (plain_toText hsome hscidPlain hdomain hpath c hc).2
  · exact verifyLog_genesisEntry hX hsome hscid hform hprelim hocc

/-- What an ordinary call prepares. -/
theorem genesis_of_prepare (hX : X.Lawful) (hordinary : Ordinary X env args w) {prepared : Prepared}
    (h : prepare X env args w = (.ok prepared, w')) : ∃ now scid,
      prepared.genesis.value = signGenesis X .tdw03 prepared.staged now
        (genesisForm X prepared.staged scid now prepared.genesis.did.toText) ∧
      DID.fromStr prepared.genesis.did.toText = .ok prepared.genesis.did ∧
      Text.trim prepared.genesis.did.toText = prepared.genesis.did.toText ∧
      verifyLog X.toCrates
        ⟨[genesisEntry X prepared.staged scid now prepared.genesis.did.toText]⟩
        prepared.genesis.did = .ok () := by
  simp only [prepare, Command.bind_eq_ok_iff, Command.ofExcept_eq_ok_iff, Command.pure_eq_ok_iff,
    Except.mapError_eq_ok_iff] at h
  obtain ⟨_, _, ⟨-, rfl⟩, ⟨url, space⟩, w₁, hurl, ⟨domain, path⟩, _, ⟨hcomponents, rfl⟩, staged, w₂,
    hstaged, placeholder, _, ⟨hplaceholder, rfl⟩, now, w₃, hnow, genesis, _, ⟨hgenesis, rfl⟩, rfl,
    -⟩ := h
  have hocc := hordinary.scid ⟨url, space, domain, path, staged, placeholder, now, w₁, w₂, w₃, hurl,
    hcomponents, hstaged, hplaceholder, hnow, rfl⟩
  rw [hordinary.format] at hocc hplaceholder hgenesis
  obtain ⟨scid, hscid⟩ := genesis_of_buildGenesis hX ((hordinary.url hurl).components hcomponents)
    hplaceholder hocc hgenesis
  exact ⟨now, scid, hscid⟩

/-- An ordinary creation that has got to its upload has left a log of one entry, and its keys in the
key store. -/
theorem holds_of_commit (hX : X.Lawful) (hordinary : Ordinary X env args w) {prepared : Prepared}
    {entry : KeyStoreEntry} {w₁ w₂ w₃ : World}
    (hprepare : prepare X env args w = (.ok prepared, w₁))
    (hsave : save X env args prepared w₁ = (.ok (), w₂))
    (hcommit : commit X env prepared w₂ = (.ok entry, w₃)) :
    w₃.files.get args.out = some (prepared.genesis.line X) ∧
      Holds X args.out prepared.genesis.did [prepared.staged] w₃ := by
  simp only [save, commit, Command.mapError_eq_ok_iff, Os.write,
    Os.writing_eq_ok_iff] at hsave hcommit
  obtain ⟨-, rfl⟩ := hsave
  obtain ⟨now, scid, hvalue, hdid, htrim, haccepted⟩ := genesis_of_prepare hX hordinary hprepare
  have harchive := archive_of_commit hX htrim hcommit
  -- The keys are not in the log.
  have hcommitted : w₃.files = (Os.putFile args.out (prepared.genesis.line X) w₁.ticked).files :=
    (keeps_commit (fun _ => rfl) fun _ _ => rfl).eq hcommit
  -- The history of a log without entries is extended by the genesis entry.
  have hempty : KeyHistory X prepared.genesis.did [] [] := ⟨rfl, fun he => absurd he (by simp)⟩
  have hdeactivated : (genesisEntry X prepared.staged scid now
      prepared.genesis.did.toText).parameters.deactivated = none := rfl
  have hactive : (genesisEntry X prepared.staged scid now
      prepared.genesis.did.toText).parameters.deactivated ≠ some true := by simp [hdeactivated]
  have hwritten : w₃.files.get args.out = some (prepared.genesis.line X) := by
    rw [hcommitted]
    show (w₁.files.insert args.out _).get args.out = _
    rw [OrdMap.get_insert, if_pos rfl]
  refine ⟨hwritten, prepared.genesis.line X,
    ⟨[genesisEntry X prepared.staged scid now prepared.genesis.did.toText]⟩, hwritten, ?_, hdid,
    haccepted, harchive, hempty.concat rfl rfl hactive⟩
  show DIDLog.tryFromJsonl X.toCrates (Genesis.line X ⟨prepared.genesis.did,
    prepared.genesis.value⟩) = _
  rw [hvalue]
  exact tryFromJsonl_line

/-- An ordinary creation that succeeds leaves a log of one entry, and its keys in the key store. -/
theorem holds_of_cmdCreate (hX : X.Lawful) (hordinary : Ordinary X env args w) {report : Report}
    (h : cmdCreate X env args w = (.ok report, w')) :
    ∃ keys, Holds X args.out report.did [keys] w' := by
  simp only [cmdCreate, Command.bind_eq_ok_iff, Command.pure_eq_ok_iff] at h
  obtain ⟨prepared, w₁, hprepare, _, w₂, hsave, entry, w₃, hcommit, published, w₄, hpublish, rfl,
    rfl⟩ := h
  obtain ⟨-, hholds⟩ := holds_of_commit hX hordinary hprepare hsave hcommit
  -- The upload leaves the log and the keys as they are.
  have hkeyStore : w₄.keyStore = w₃.keyStore :=
    (keeps_publish (fun _ => rfl) fun _ _ => rfl).eq hpublish
  have hpublished : w₄.files = w₃.files :=
    (keeps_publish (fun _ => rfl) fun _ _ => rfl).eq hpublish
  exact ⟨prepared.staged, hholds.congr (by rw [hpublished]) (by rw [hkeyStore])⟩

end Create

end Swiyu
