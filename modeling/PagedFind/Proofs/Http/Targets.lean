import Mathlib.Data.List.TakeWhile
import PagedFind.Config.Basic
import PagedFind.Http.Backend
import PagedFind.Proofs.Http.Encoding
import PagedFind.Proofs.Text.Split

namespace PagedFind.Http

namespace Url

def isKept (c : Char) : Bool := c != '\t' && c != '\n' && c != '\r'

def isMark (c : Char) : Bool := c == '?' || c == '#'

def asSlash (c : Char) : Char := if isSlash c then '/' else c

def segments (text : List Char) : List (List Char) :=
  (Text.split '/' ((text.filter isKept).map asSlash)).map (encode isEncodedInPath)

/-- A segment that is not the last one of its path, below others that are held backwards. -/
def descend (above : List (List Char)) (segment : List Char) : List (List Char) :=
  if isUp segment then above.drop 1
  else if isHere segment then above
  else segment :: above

/-- The segments above the last one, where these are typed. -/
def directory (text : List Char) : List (List Char) := ((segments text).foldl descend []).reverse

theorem resolve_cons (above : List (List Char)) (segment : List Char) {below : List (List Char)} (h : below ≠ []) :
    resolve above (segment :: below) = resolve (descend above segment) below := by
  obtain ⟨next, below, rfl⟩ := List.exists_cons_of_ne_nil h
  rw [resolve, descend]
  · split_ifs <;> rfl
  · exact List.cons_ne_nil _ _

theorem resolve_append {last : List Char} (hup : ¬isUp last) (hhere : ¬isHere last)
    (above below : List (List Char)) :
    resolve above (below ++ [last]) = (below.foldl descend above).reverse ++ [last] := by
  induction below generalizing above with
  | nil => simp [resolve, hup, hhere]
  | cons segment below ih =>
    have hne : below ++ [last] ≠ [] := List.append_ne_nil_of_right_ne_nil _ (List.cons_ne_nil _ _)
    rw [List.cons_append, resolve_cons above segment hne, ih, List.foldl_cons]

theorem filter_isKept_map_asSlash {text : List Char} (h : ∀ c ∈ text, isKept c ∧ asSlash c = c) :
    (text.filter isKept).map asSlash = text := by
  rw [List.filter_eq_self.mpr fun c hc => (h c hc).1]
  exact (List.map_congr_left fun c hc => (h c hc).2).trans (List.map_id' text)

theorem segments_append {last : List Char} (hlast : ∀ c ∈ last, isKept c ∧ asSlash c = c) (hslash : '/' ∉ last)
    (text : List Char) : segments (text ++ '/' :: last) = segments text ++ [encode isEncodedInPath last] := by
  have htext : ((text ++ '/' :: last).filter isKept).map asSlash =
      (text.filter isKept).map asSlash ++ '/' :: last := by
    rw [List.filter_append, List.map_append]
    have hsep : ('/' :: last).filter isKept = '/' :: last.filter isKept := rfl
    rw [hsep, List.map_cons, filter_isKept_map_asSlash hlast]
    rfl
  rw [segments, htext, Text.split_append, Text.split_of_not_mem hslash, List.map_append]
  rfl

theorem ofChars_append {auth : List Char} (hauth : ∀ c ∈ auth, ¬isSlash c ∧ ¬isMark c)
    (hne : auth.filter isKept ≠ []) (text : List Char) :
    let rest := (text.filter isKept).takeWhile (· != '#')
    ofChars (auth ++ '/' :: text) =
      ⟨auth.filter isKept,
        resolve [] ((Text.split '/' ((rest.takeWhile (· != '?')).map asSlash)).map (encode isEncodedInPath)),
        match rest.dropWhile (· != '?') with
        | _ :: query => some (encode isEncodedInQuery query)
        | [] => none⟩ := by
  intro rest
  have hhost (c : Char) (hc : c ∈ auth.filter isKept) : isSlash c = false ∧ c ≠ '?' ∧ c ≠ '#' := by
    simpa [isMark] using hauth c (List.mem_of_mem_filter hc)
  have hfilter : (auth ++ '/' :: text).filter isKept = auth.filter isKept ++ '/' :: text.filter isKept :=
    List.filter_append ..
  generalize auth.filter isKept = host at *
  -- Nothing in the host is a slash or a mark, so every cut of the reader falls behind it.
  have hdrop : (host ++ '/' :: text.filter isKept).dropWhile isSlash = host ++ '/' :: text.filter isKept := by
    obtain ⟨first, others, rfl⟩ := List.exists_cons_of_ne_nil hne
    rw [List.cons_append, List.dropWhile_cons_of_neg]
    simp [(hhost first List.mem_cons_self).1]
  have htake : (host ++ '/' :: text.filter isKept).takeWhile (· != '#') = host ++ '/' :: rest := by
    rw [List.takeWhile_append_of_pos fun c hc => by simp [(hhost c hc).2.2]]
    rfl
  have hauthority : (host ++ '/' :: rest).takeWhile (fun c => !isSlash c && c != '?') = host := by
    rw [List.takeWhile_append_of_pos fun c hc => by simp [(hhost c hc).1, (hhost c hc).2.1]]
    exact List.append_nil host
  have hquery : ('/' :: rest).drop (('/' :: rest).takeWhile (· != '?')).length = rest.dropWhile (· != '?') := by
    conv_lhs => enter [2]; rw [← @List.takeWhile_append_dropWhile _ (· != '?') rest]
    exact List.drop_left
  have hkept : (fun c => c != '\t' && c != '\n' && c != '\r') = isKept := rfl
  have hslash : (fun c => if isSlash c then '/' else c) = asSlash := rfl
  simp only [ofChars, hkept, hslash]
  rw [hfilter, hdrop, htake, hauthority, List.drop_left, hquery]
  rfl

theorem takeWhile_marks (text : List Char) :
    ((text.filter isKept).takeWhile (· != '#')).takeWhile (· != '?') = (text.takeWhile (!isMark ·)).filter isKept := by
  rw [List.takeWhile_takeWhile, List.takeWhile_filter]
  have hmarks : (fun c => !isKept c || decide ((c != '?') = true ∧ (c != '#') = true)) = (!isMark ·) := by
    funext c
    by_cases hquery : c = '?'
    · subst hquery
      rfl
    by_cases hfragment : c = '#'
    · subst hfragment
      rfl
    simp [isMark, hquery, hfragment]
  rw [hmarks]

section

variable {auth : List Char}

theorem path_ofChars (hauth : ∀ c ∈ auth, ¬isSlash c ∧ ¬isMark c) (hne : auth.filter isKept ≠ []) (text : List Char) :
    (ofChars (auth ++ '/' :: text)).path = resolve [] (segments (text.takeWhile (!isMark ·))) := by
  rw [ofChars_append hauth hne, segments, ← takeWhile_marks]

theorem query_ofChars_eq_none_iff (hauth : ∀ c ∈ auth, ¬isSlash c ∧ ¬isMark c) (hne : auth.filter isKept ≠ [])
    {text : List Char} (htext : '#' ∉ text) : (ofChars (auth ++ '/' :: text)).query = none ↔ '?' ∉ text := by
  have hrest : (text.filter isKept).takeWhile (· != '#') = text.filter isKept := by
    refine List.takeWhile_eq_self_iff.mpr fun c hc => ?_
    have hne : c ≠ '#' := fun heq => htext (heq ▸ List.mem_of_mem_filter hc)
    simpa using hne
  have hmem : '?' ∈ text.filter isKept ↔ '?' ∈ text := by simp [isKept]
  have hnil : (text.filter isKept).dropWhile (· != '?') = [] ↔ '?' ∉ text := by
    rw [List.dropWhile_eq_nil_iff, ← hmem]
    exact ⟨fun h hquery => absurd (h '?' hquery) (by decide), fun h c hc => by
      have hne : c ≠ '?' := fun heq => h (heq ▸ hc)
      simpa using hne⟩
  rw [ofChars_append hauth hne, hrest, ← hnil]
  cases (text.filter isKept).dropWhile (· != '?') with
  | nil => exact iff_of_true rfl rfl
  | cons c query => exact iff_of_false (Option.some_ne_none _) (List.cons_ne_nil _ _)

end

theorem mem_foldl_descend {segment : List Char} {above below : List (List Char)}
    (h : segment ∈ below.foldl descend above) : segment ∈ above ∨ segment ∈ below := by
  induction below generalizing above with
  | nil => exact .inl h
  | cons next below ih =>
    rcases ih h with habove | hbelow
    · rw [descend] at habove
      split_ifs at habove
      · exact .inl (List.mem_of_mem_drop habove)
      · exact .inl habove
      · rcases List.mem_cons.mp habove with rfl | habove
        · exact .inr List.mem_cons_self
        · exact .inl habove
    · exact .inr (List.mem_cons_of_mem next hbelow)

theorem slash_not_mem_directory {text segment : List Char} (h : segment ∈ directory text) : '/' ∉ segment := by
  have hmem : segment ∈ segments text := by
    simpa using mem_foldl_descend (List.mem_reverse.mp h)
  obtain ⟨part, hpart, rfl⟩ := List.mem_map.mp hmem
  exact slash_not_mem_encode (Text.mem_split hpart).1

theorem foldl_descend_of_undotted {below : List (List Char)} (h : ∀ segment ∈ below, ¬isUp segment ∧ ¬isHere segment)
    (above : List (List Char)) : below.foldl descend above = below.reverse ++ above := by
  induction below generalizing above with
  | nil => rfl
  | cons segment below ih =>
    obtain ⟨hup, hhere⟩ := h segment List.mem_cons_self
    rw [List.foldl_cons, descend, if_neg hup, if_neg hhere, ih fun s hs => h s (List.mem_cons_of_mem _ hs)]
    simp

end Url

/-- What a name is put into a URL as. -/
def databaseName (database : String) : List Char := Text.trimClass (· == '/') database.toList

/-- A name without marks, all of which is in the path. -/
def IsWhole (name : List Char) : Prop := ∀ c ∈ name, ¬Url.isMark c

/-- A name in which nothing has a meaning of its own in a path. -/
structure IsLiteral (name : List Char) : Prop where
  plain : ∀ c ∈ name, c ∉ ['?', '#', '%', '\\', '\t', '\n', '\r']
  undotted : ∀ segment ∈ Text.split '/' name, segment ≠ ['.'] ∧ segment ≠ ['.', '.']

def endpointUrl (baseUrl database endpoint : String) : String := baseUrl ++ databasePath database endpoint

def target? (baseUrl database endpoint : String) : Option (List Char) :=
  (Url.ofString? (endpointUrl baseUrl database endpoint)).map Url.target

def endpoints : List String := ["_find", "_index"]

def authority (c : Config) : List Char := c.hostname.toList ++ ':' :: Nat.toDigits 10 c.port

/-- A segment that stays as it is, wherever it is put. -/
structure IsPlain (segment : List Char) : Prop where
  isWhole : IsWhole segment
  slash_not_mem : '/' ∉ segment
  kept : ∀ char ∈ segment, Url.isKept char ∧ Url.asSlash char = char
  encode_eq : Url.encode Url.isEncodedInPath segment = segment
  not_isUp : ¬Url.isUp segment
  not_isHere : ¬Url.isHere segment

theorem isPlain_endpoint {endpoint : String} (h : endpoint ∈ endpoints) : IsPlain endpoint.toList := by
  rcases List.mem_pair.mp h with rfl | rfl <;>
    exact ⟨by simp [IsWhole, Url.isMark], by simp, by simp [Url.isKept, Url.asSlash, Url.isSlash], by decide +kernel,
      by decide +kernel, by decide +kernel⟩

theorem filter_authority_ne_nil (c : Config) : (authority c).filter Url.isKept ≠ [] := by
  have hmem : ':' ∈ (authority c).filter Url.isKept := by simp [authority, Url.isKept]
  exact List.ne_nil_of_mem hmem

theorem toList_endpointUrl (c : Config) (database endpoint : String) :
    (endpointUrl c.baseUrl database endpoint).toList =
      Url.scheme ++ (authority c ++ '/' :: (databaseName database ++ '/' :: endpoint.toList)) := by
  delta Url.scheme
  simp [endpointUrl, Config.baseUrl, databasePath, databaseName, authority, Nat.repr]

def place (c : Config) (database endpoint : String) : Url :=
  Url.ofChars (authority c ++ '/' :: (databaseName database ++ '/' :: endpoint.toList))

theorem ofString?_endpointUrl (c : Config) (database endpoint : String) :
    Url.ofString? (endpointUrl c.baseUrl database endpoint) = some (place c database endpoint) := by
  rw [Url.ofString?, Text.dropStart?_eq_some_iff.mpr (toList_endpointUrl c database endpoint)]
  rfl

section

variable {c : Config} (hhost : ∀ char ∈ c.hostname.toList, ¬Url.isSlash char ∧ ¬Url.isMark char)
include hhost

theorem authority_plain : ∀ char ∈ authority c, ¬Url.isSlash char ∧ ¬Url.isMark char := by
  intro char hchar
  rcases List.mem_append.mp hchar with hchar | hchar
  · exact hhost char hchar
  rcases List.mem_cons.mp hchar with rfl | hdigit
  · decide
  · have hdigit := Nat.isDigit_of_mem_toDigits (by decide) (by decide) hdigit
    refine ⟨?_, ?_⟩ <;> intro hbad
    · simp [Url.isSlash] at hbad
      rcases hbad with rfl | rfl <;> exact absurd hdigit (by decide)
    · simp [Url.isMark] at hbad
      rcases hbad with rfl | rfl <;> exact absurd hdigit (by decide)

/-- A name without marks is the directory that its endpoint is in. -/
theorem path_of_isWhole {database endpoint : String} (hendpoint : endpoint ∈ endpoints)
    (hname : IsWhole (databaseName database)) :
    (place c database endpoint).path =
      Url.directory (databaseName database) ++ [endpoint.toList] := by
  have hplain := isPlain_endpoint hendpoint
  have htake : (databaseName database ++ '/' :: endpoint.toList).takeWhile (!Url.isMark ·) =
      databaseName database ++ '/' :: endpoint.toList := by
    refine List.takeWhile_eq_self_iff.mpr fun char hchar => ?_
    rcases List.mem_append.mp hchar with hchar | hchar
    · simpa using hname char hchar
    rcases List.mem_cons.mp hchar with rfl | hchar
    · rfl
    · simpa using hplain.isWhole char hchar
  rw [place, Url.path_ofChars (authority_plain hhost) (filter_authority_ne_nil c), htake,
    Url.segments_append hplain.kept hplain.slash_not_mem, hplain.encode_eq,
    Url.resolve_append hplain.not_isUp hplain.not_isHere]
  rfl

/-- A mark in a name cuts the path there. -/
theorem path_of_not_isWhole {database endpoint : String} (hname : ¬IsWhole (databaseName database)) :
    (place c database endpoint).path =
      Url.resolve [] (Url.segments ((databaseName database).takeWhile (!Url.isMark ·))) := by
  have hshort : ((databaseName database).takeWhile (!Url.isMark ·)).length ≠ (databaseName database).length := by
    intro hlength
    have hself := (List.takeWhile_prefix _).eq_of_length hlength
    exact hname fun char hchar => by simpa using List.takeWhile_eq_self_iff.mp hself char hchar
  rw [place, Url.path_ofChars (authority_plain hhost) (filter_authority_ne_nil c), List.takeWhile_append,
    if_neg hshort]

theorem unmarked_iff {database endpoint : String} (hendpoint : endpoint ∈ endpoints) :
    ((place c database endpoint).query = none ∧
      '#' ∉ (endpointUrl c.baseUrl database endpoint).toList) ↔ IsWhole (databaseName database) := by
  have hmem (mark : Char) (hmark : Url.isMark mark) :
      mark ∈ databaseName database ++ '/' :: endpoint.toList ↔ mark ∈ databaseName database := by
    have hslash : mark ≠ '/' := by
      rintro rfl
      exact absurd hmark (by decide)
    have hnone : mark ∉ endpoint.toList := fun h => (isPlain_endpoint hendpoint).isWhole mark h hmark
    simp [hslash, hnone]
  have hurl : '#' ∈ (endpointUrl c.baseUrl database endpoint).toList ↔ '#' ∈ databaseName database := by
    have hscheme : '#' ∉ Url.scheme := by decide
    have hauthority : '#' ∉ authority c := fun h => (authority_plain hhost '#' h).2 rfl
    rw [← hmem '#' rfl, toList_endpointUrl, List.mem_append, List.mem_append, List.mem_cons]
    simp [hscheme, hauthority]
  rw [hurl, and_comm]
  constructor
  · rintro ⟨hfragment, hquery⟩ char hchar hmark
    rw [place, Url.query_ofChars_eq_none_iff (authority_plain hhost) (filter_authority_ne_nil c)
      (by rwa [hmem '#' rfl]), hmem '?' rfl] at hquery
    simp only [Url.isMark, Bool.or_eq_true, beq_iff_eq] at hmark
    rcases hmark with rfl | rfl
    · exact hquery hchar
    · exact hfragment hchar
  · intro hname
    have hfragment : '#' ∉ databaseName database := fun h => hname '#' h rfl
    refine ⟨hfragment, ?_⟩
    rw [place, Url.query_ofChars_eq_none_iff (authority_plain hhost) (filter_authority_ne_nil c)
      (by rwa [hmem '#' rfl]), hmem '?' rfl]
    exact fun h => hname '?' h rfl

theorem target?_of_isWhole {database endpoint : String} (hendpoint : endpoint ∈ endpoints)
    (hname : IsWhole (databaseName database)) :
    target? c.baseUrl database endpoint =
      some ('/' :: Text.joinWith ['/'] (Url.directory (databaseName database) ++ [endpoint.toList])) := by
  obtain ⟨hquery, -⟩ := (unmarked_iff hhost hendpoint).mpr hname
  rw [target?, ofString?_endpointUrl, Option.map_some, Url.target, path_of_isWhole hhost hendpoint hname, hquery]
  simp

/-- Two names without marks lead to one target where the dot segments resolve alike. -/
theorem target?_eq_iff {database database' endpoint endpoint' : String} (hendpoint : endpoint ∈ endpoints)
    (hendpoint' : endpoint' ∈ endpoints) (hname : IsWhole (databaseName database))
    (hname' : IsWhole (databaseName database')) :
    target? c.baseUrl database endpoint = target? c.baseUrl database' endpoint' ↔
      endpoint = endpoint' ∧ Url.directory (databaseName database) = Url.directory (databaseName database') := by
  have hsplit {database endpoint : String} (hendpoint : endpoint ∈ endpoints) :
      Text.split '/' (Text.joinWith ['/'] (Url.directory (databaseName database) ++ [endpoint.toList])) =
        Url.directory (databaseName database) ++ [endpoint.toList] := by
    refine Text.split_joinWith (List.append_ne_nil_of_right_ne_nil _ (List.cons_ne_nil _ _)) fun part hpart => ?_
    rcases List.mem_append.mp hpart with hpart | hpart
    · exact Url.slash_not_mem_directory hpart
    · rw [List.mem_singleton.mp hpart]
      exact (isPlain_endpoint hendpoint).slash_not_mem
  rw [target?_of_isWhole hhost hendpoint hname, target?_of_isWhole hhost hendpoint' hname']
  constructor
  · intro h
    obtain ⟨-, hjoined⟩ := List.cons.inj (Option.some.inj h)
    have hparts := congrArg (Text.split '/') hjoined
    rw [hsplit hendpoint, hsplit hendpoint'] at hparts
    obtain ⟨hdirectory, hlast⟩ := List.append_inj' hparts rfl
    exact ⟨String.toList_inj.mp (List.singleton_inj.mp hlast), hdirectory⟩
  · rintro ⟨rfl, hdirectory⟩
    rw [hdirectory]

end

section

variable {name name' : List Char}

theorem IsLiteral.isWhole (h : IsLiteral name) : IsWhole name := by
  intro char hchar hmark
  have hplain := h.plain char hchar
  simp only [Url.isMark, Bool.or_eq_true, beq_iff_eq] at hmark
  rcases hmark with rfl | rfl <;> exact hplain (by decide)

theorem IsLiteral.percent_not_mem (h : IsLiteral name) {segment : List Char} (hmem : segment ∈ Text.split '/' name) :
    '%' ∉ segment :=
  fun hchar => h.plain '%' ((Text.mem_split hmem).2 hchar) (by decide)

/-- The segments of a literal name are its parts. -/
theorem IsLiteral.directory_eq (h : IsLiteral name) :
    Url.directory name = (Text.split '/' name).map (Url.encode Url.isEncodedInPath) := by
  have hkept (char : Char) (hchar : char ∈ name) : Url.isKept char ∧ Url.asSlash char = char := by
    have hplain := h.plain char hchar
    simp only [List.mem_cons, List.not_mem_nil, or_false, not_or] at hplain
    simpa [Url.isKept, Url.asSlash, Url.isSlash, hplain] using fun h : char = '/' => h.symm
  have hundotted : ∀ segment ∈ Url.segments name, ¬Url.isUp segment ∧ ¬Url.isHere segment := by
    rw [Url.segments, Url.filter_isKept_map_asSlash hkept]
    rintro _ hsegment
    obtain ⟨segment, hmem, rfl⟩ := List.mem_map.mp hsegment
    obtain ⟨hhere, hup⟩ := h.undotted segment hmem
    have hsigns := h.percent_not_mem hmem
    constructor
    · intro hdots
      exact hup (@Url.eq_of_dots_encode _ _ 2 hsigns (by simpa [Url.isUp] using hdots))
    · intro hdots
      exact hhere (@Url.eq_of_dots_encode _ _ 1 hsigns (by simpa [Url.isHere] using hdots))
  rw [Url.directory, Url.foldl_descend_of_undotted hundotted, List.append_nil, List.reverse_reverse, Url.segments,
    Url.filter_isKept_map_asSlash hkept]

theorem IsLiteral.eq_of_directory_eq (h : IsLiteral name) (h' : IsLiteral name')
    (heq : Url.directory name = Url.directory name') : name = name' := by
  -- The encoded segments keep the bytes of the parts of a name.
  have hbytes {name : List Char} (h : IsLiteral name) :
      (Url.directory name).map Url.bytesOf = (Text.split '/' name).map (List.flatMap Text.utf8) := by
    rw [h.directory_eq, List.map_map]
    exact List.map_congr_left fun segment hmem => Url.bytesOf_encode (h.percent_not_mem hmem)
  have hparts := congrArg (List.map Url.bytesOf) heq
  rw [hbytes h, hbytes h'] at hparts
  exact Text.split_injective (List.map_injective_iff.mpr (fun _ _ => Text.flatMap_utf8_injective) hparts)

end

/-- A call of the backend is one post to the URL of its endpoint. That URL has neither a query nor a fragment exactly
where the name has no marks. The path of such a name is its directory with the endpoint below; the path of any other is
what stands before its first mark. Whole names share a target where they share the directory, and literal names only
where they are the same. -/
theorem posts_to_directory {m : Type → Type} [Monad m] (exchange : Exchange m) (c : Config)
    (hhost : ∀ char ∈ c.hostname.toList, ¬Url.isSlash char ∧ ¬Url.isMark char) :
    (∀ database request, ∃ reply : Except String Answer → Reply Page,
      (backend exchange c.baseUrl c.limits).execute database request = do
        let answer ← exchange (endpointUrl c.baseUrl database "_find") request.document.text
        return reply answer) ∧
    (∀ database spec, ∃ reply : Except String Answer → Reply IndexOutcome,
      (backend exchange c.baseUrl c.limits).createIndex database spec = do
        let answer ← exchange (endpointUrl c.baseUrl database "_index") spec.document.text
        return reply answer) ∧
    (∀ database, ∀ endpoint ∈ endpoints,
      ∃ url, Url.ofString? (endpointUrl c.baseUrl database endpoint) = some url ∧
        ((url.query = none ∧ '#' ∉ (endpointUrl c.baseUrl database endpoint).toList) ↔
          IsWhole (databaseName database)) ∧
        (IsWhole (databaseName database) →
          url.path = Url.directory (databaseName database) ++ [endpoint.toList]) ∧
        (¬IsWhole (databaseName database) →
          url.path = Url.resolve [] (Url.segments ((databaseName database).takeWhile (!Url.isMark ·))))) ∧
    (∀ database database', ∀ endpoint ∈ endpoints, ∀ endpoint' ∈ endpoints,
      (IsWhole (databaseName database) → IsWhole (databaseName database') →
        (target? c.baseUrl database endpoint = target? c.baseUrl database' endpoint' ↔ endpoint = endpoint' ∧
          Url.directory (databaseName database) = Url.directory (databaseName database'))) ∧
      (IsLiteral (databaseName database) → IsLiteral (databaseName database') →
        (target? c.baseUrl database endpoint = target? c.baseUrl database' endpoint' ↔ endpoint = endpoint' ∧
          databaseName database = databaseName database'))) := by
  refine ⟨fun database request => ⟨_, rfl⟩, fun database spec => ⟨_, rfl⟩, fun database endpoint hendpoint => ?_,
    fun database database' endpoint hendpoint endpoint' hendpoint' => ⟨?whole, ?literal⟩⟩
  · exact ⟨_, ofString?_endpointUrl c database endpoint, unmarked_iff hhost hendpoint,
      path_of_isWhole hhost hendpoint, path_of_not_isWhole hhost⟩
  case whole => exact target?_eq_iff hhost hendpoint hendpoint'
  case literal =>
    intro hname hname'
    rw [target?_eq_iff hhost hendpoint hendpoint' hname.isWhole hname'.isWhole]
    exact and_congr_right' ⟨hname.eq_of_directory_eq hname', congrArg Url.directory⟩

theorem posts_to_directory_people :
    (∀ char ∈ Config.default.hostname.toList, ¬Url.isSlash char ∧ ¬Url.isMark char) ∧
      IsLiteral (databaseName "/people/") ∧ IsLiteral (databaseName "a b") ∧
      Url.directory (databaseName "/people/") = ["people".toList] ∧
      (∃ url, Url.ofString? (endpointUrl Config.default.baseUrl "/people/" "_find") = some url ∧ url.query = none ∧
        url.path = ["people".toList, "_find".toList]) ∧
      target? Config.default.baseUrl "/people/" "_find" ≠ target? Config.default.baseUrl "a b" "_find" := by
  have hhost : ∀ char ∈ Config.default.hostname.toList, ¬Url.isSlash char ∧ ¬Url.isMark char := by
    simp [Config.default, Url.isSlash, Url.isMark]
  have hpeople : IsLiteral (databaseName "/people/") := by
    have hname : databaseName "/people/" = "people".toList := by decide +kernel
    exact ⟨by simp [hname], by decide +kernel⟩
  have hspaced : IsLiteral (databaseName "a b") := by
    have hname : databaseName "a b" = "a b".toList := by decide +kernel
    exact ⟨by simp [hname], by decide +kernel⟩
  have hdirectory : Url.directory (databaseName "/people/") = ["people".toList] := by decide +kernel
  obtain ⟨-, -, hurl, htarget⟩ :=
    posts_to_directory (m := Id) (fun _ _ => .error "connection refused") Config.default hhost
  obtain ⟨url, hread, hmarks, hpath, -⟩ := hurl "/people/" "_find" List.mem_cons_self
  have hother := (htarget "/people/" "a b" "_find" List.mem_cons_self "_find" List.mem_cons_self).2 hpeople hspaced
  refine ⟨hhost, hpeople, hspaced, hdirectory,
    ⟨url, hread, (hmarks.mpr hpeople.isWhole).1, by rw [hpath hpeople.isWhole, hdirectory]; rfl⟩, fun heq => ?_⟩
  exact absurd (hother.mp heq).2 (by decide +kernel)

/-- A name with a mark, and two names that dots make one. -/
theorem posts_past_endpoint :
    (databaseName "a?b" ≠ [] ∧ ∃ url, Url.ofString? (endpointUrl Config.default.baseUrl "a?b" "_find") = some url ∧
      url.path = ["a".toList] ∧ url.query = some "b/_find".toList) ∧
    target? Config.default.baseUrl "people#2024" "_find" = target? Config.default.baseUrl "people#2025" "_index" ∧
    databaseName "a/../b" ≠ databaseName "b" ∧
    target? Config.default.baseUrl "a/../b" "_find" = target? Config.default.baseUrl "b" "_find" := by
  refine ⟨⟨by decide +kernel, ⟨_, ofString?_endpointUrl _ _ _, by decide +kernel, by decide +kernel⟩⟩, ?_⟩
  decide +kernel

end PagedFind.Http
