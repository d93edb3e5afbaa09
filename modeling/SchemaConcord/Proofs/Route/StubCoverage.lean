import SchemaConcord.Proofs.Naming.Spelling
import SchemaConcord.Proofs.Route.Coverage
import SchemaConcord.Proofs.Route.StubReading
import SchemaConcord.Proofs.Source.Tree
import SchemaConcord.Route.Extract

/-!
# The routes of a stub

A stub has the five routes that its table is expected to have, so that none of them is missing when the stub is the only
source (`Table.missingRoutes_routeStub`). For this the names that the stub takes from the columns as they are have to be
such that they may stand where they stand.
-/

namespace SchemaConcord

open Text Source RouteSource

/-! ## Routes of handlers -/

theorem verb_spelled : ∀ m ∈ HttpMethod.all, HttpMethod.ofVerb? (lowercase (spelled m.verb)) = some m := by
  decide +kernel

theorem RouteSource.exists_route {m : HttpMethod} {path : String} {n : Node} (h : Stub.IsHandler m.verb path n)
    (hpath : hasHead path "/" = true) (nodes : List Node) (source : String) :
    ∃ r ∈ RouteSource.nodeRoutes nodes source n, r.method = m ∧ r.path = path := by
  obtain ⟨name, parameters, body, options, returns, hn⟩ := h
  have hm : m ∈ HttpMethod.all := by cases m <;> decide
  have hmethods : decoratorMethods (spelled m.verb) options = [m] := by
    rw [decoratorMethods, verb_spelled m hm]
  refine ⟨build m path source (some name) [n] (statusCodes options), ?_, rfl, rfl⟩
  rw [hn]
  simp [nodeRoutes, decoratorRoutes, Node.lastName?, hmethods, hpath]

/-! ## Paths -/

namespace RoutePath

/-- A name at the end of a path is a segment of its own. -/
theorem segments_last (resource : String) {last : List Char} (hne : last ≠ []) (hlast : '/' ∉ last) :
    segments (String.ofList ("/api/".toList ++ resource.toList ++ '/' :: last)) =
      splitAt (· == '/') ("api/".toList ++ resource.toList) ++ [last] := by
  have hfree : ∀ c ∈ last, (c == '/') = false := fun c hc => beq_false_of_ne fun h => hlast (h ▸ hc)
  have hleft : trimLeft (· == '/') ("/api/".toList ++ resource.toList ++ '/' :: last) =
      "api/".toList ++ resource.toList ++ '/' :: last := by
    simp [trimLeft]
  have hright (cs : List Char) : trimRight (· == '/') (cs ++ last) = cs ++ last := by
    obtain ⟨d, ds, hds⟩ := List.exists_cons_of_ne_nil (List.reverse_ne_nil_iff.mpr hne)
    have hd : (d == '/') = false := hfree d (List.mem_reverse.mp (hds ▸ List.mem_cons_self ..))
    rw [trimRight, List.reverse_append, hds, List.cons_append, List.dropWhile_cons_of_neg (by simp [hd]),
      ← List.cons_append, ← hds, ← List.reverse_append, List.reverse_reverse]
  have hall := hright ("api/".toList ++ resource.toList ++ ['/'])
  rw [List.append_assoc, List.singleton_append] at hall
  rw [segments, String.toList_ofList, trim, hleft, hall]
  exact splitAt_last rfl hfree _

theorem segmentsMatch_refl (segs : List (List Char)) : segmentsMatch segs segs = true := by
  induction segs with
  | nil => rfl
  | cons s segs ih => simp [segmentsMatch, segmentMatches, ih]

theorem segmentsMatch_last {a b : List Char} (h : segmentMatches a b = true) (segs : List (List Char)) :
    segmentsMatch (segs ++ [a]) (segs ++ [b]) = true := by
  induction segs with
  | nil => simp [segmentsMatch, h]
  | cons s segs ih => simpa [segmentsMatch, segmentMatches] using ih

end RoutePath

/-! ## Words from a table -/

theorem plain_of_isNamePart {c : Char} (h : isNamePart c = true) : Plain c ∧ c ≠ '\n' := by
  have hbyte := isNameByte_of_isNamePart h
  have hne : ∀ d : Char, isNameByte d = false → c ≠ d := by
    rintro d hd rfl
    cases hbyte.symm.trans hd
  exact ⟨⟨hne _ rfl, hne _ rfl, hne _ rfl, hne _ (by decide)⟩, hne _ rfl⟩

/-- A name that begins as no keyword does. -/
theorem sound_named {front back : String} (hfront : isIdentifier front.toList = true)
    (hkeywords : ∀ k ∈ keywords, front.toList.isPrefixOf k.toList = false)
    (hback : ∀ c ∈ back.toList, isNamePart c = true) : (Word.name (front ++ back)).Sound := by
  constructor
  · rw [String.toList_append]
    cases hlist : front.toList with
    | nil =>
      rw [hlist] at hfront
      cases hfront
    | cons c cs =>
      rw [hlist] at hfront
      simp only [isIdentifier, Bool.and_eq_true, List.all_eq_true] at hfront
      simp only [List.cons_append, isIdentifier, Bool.and_eq_true, List.all_eq_true]
      exact ⟨hfront.1, List.forall_mem_append.mpr ⟨hfront.2, hback⟩⟩
  · intro hmem
    have hprefix := hkeywords _ hmem
    rw [String.toList_append, ← Bool.not_eq_true, List.isPrefixOf_iff_prefix] at hprefix
    exact hprefix (List.prefix_append ..)

theorem isNamePart_of_identifier {w : String} (h : isIdentifier w.toList = true) : ∀ c ∈ w.toList, isNamePart c = true := by
  cases hw : w.toList with
  | nil => nofun
  | cons d cs =>
    rw [hw] at h
    simp only [isIdentifier, Bool.and_eq_true, List.all_eq_true] at h
    exact List.forall_mem_cons.mpr ⟨isNamePart_of_start h.1, h.2⟩

theorem fieldAttribute_not_mem_keywords (name : String) : fieldAttribute name ∉ keywords := by
  have hend : ∀ k ∈ keywords, k.toList.getLast? ≠ some '_' := by decide +kernel
  have hall (s : String) : (if keywords.contains s then s ++ "_" else s) ∉ keywords := by
    split
    · intro hmem
      refine hend _ hmem ?_
      rw [String.toList_append, List.getLast?_append]
      rfl
    · next h => simpa using h
  exact hall _

/-- What the stub takes from a column as it is may stand where it stands: the attribute for it is an identifier, its name
ends no text, and the length of its values can be written in digits. -/
structure Column.Spellable (c : Column) : Prop where
  identifier : isIdentifier (fieldAttribute c.name).toList = true
  quotable : ∀ d ∈ c.name.toList, d ∉ ['"', '\\', '\n', '\r', Char.ofNat 0]
  countable : ∀ n ∈ c.lengthLimit?, (Nat.toDigits 10 n).length ≤ maxDigits

instance (c : Column) : Decidable c.Spellable :=
  decidable_of_iff (isIdentifier (fieldAttribute c.name).toList = true ∧
    (c.name.toList.all fun d => decide (d ∉ ['"', '\\', '\n', '\r', Char.ofNat 0])) = true ∧
    ∀ n ∈ c.lengthLimit?, (Nat.toDigits 10 n).length ≤ maxDigits)
    ⟨fun ⟨h, i, j⟩ => ⟨h, List.all_iff_forall_prop.mp i, j⟩, fun ⟨h, i, j⟩ => ⟨h, List.all_iff_forall_prop.mpr i, j⟩⟩

theorem Column.Spellable.writable {c : Column} (h : c.Spellable) : c.Writable where
  named := ⟨h.identifier, fieldAttribute_not_mem_keywords c.name⟩
  quoted d hd := by
    have := h.quotable d hd
    simp only [List.mem_cons, List.not_mem_nil, or_false, not_or] at this
    obtain ⟨hquote, hescape, hline, hreturn, hnull⟩ := this
    exact ⟨⟨hquote, hescape, hreturn, hnull⟩, hline⟩
  counted := h.countable

theorem plain_append {v w : String} (hv : (Word.text v).Sound) (hw : (Word.text w).Sound) : (Word.text (v ++ w)).Sound := by
  rw [Word.Sound, String.toList_append]
  exact List.forall_mem_append.mpr ⟨hv, hw⟩

theorem plain_of_parts {w : String} (h : ∀ c ∈ w.toList, isNamePart c = true) : (Word.text w).Sound :=
  fun c hc => plain_of_isNamePart (h c hc)

theorem Stub.Names.Sound.of_parts {table base plural single model key keyType : String}
    (htable : ∀ c ∈ table.toList, isNamePart c = true) (hplural : ∀ c ∈ plural.toList, isNamePart c = true)
    (hsingle : ∀ c ∈ single.toList, isNamePart c = true) (hmodel : ∀ c ∈ model.toList, isNamePart c = true)
    (hbase : (Word.text base).Sound) (hkey : isIdentifier key.toList = true) (hword : key ∉ keywords) :
    Names.Sound ⟨table, base, plural, single, model, key, keyType⟩ := by
  have hkeyText := plain_of_parts (isNamePart_of_identifier hkey)
  have hopen : (Word.text "/\x7b").Sound := by decide +kernel
  have hclose : (Word.text "\x7d").Sound := by decide +kernel
  have hfound : (Word.text " not found").Sound := by decide +kernel
  exact {
    table := plain_of_parts htable
    base := hbase
    item := plain_append (plain_append (plain_append hbase hopen) hkeyText) hclose
    keyText := hkeyText
    keyName := ⟨hkey, hword⟩
    notFound := plain_append (plain_of_parts hmodel) hfound
    list := sound_named (by decide +kernel) (by decide +kernel) hplural
    get := sound_named (by decide +kernel) (by decide +kernel) hsingle
    create := sound_named (by decide +kernel) (by decide +kernel) hsingle
    update := sound_named (by decide +kernel) (by decide +kernel) hsingle
    delete := sound_named (by decide +kernel) (by decide +kernel) hsingle
    createModel := sound_named (by decide +kernel) (by decide +kernel) hmodel
    updateModel := sound_named (by decide +kernel) (by decide +kernel) hmodel }

namespace Table

variable {t : Table}

theorem resourceName_sound (hchars : ∀ c ∈ t.name.toList, Naming.NameChar c) : (Word.text t.resourceName).Sound := by
  have hdash : Plain '-' ∧ '-' ≠ '\n' := by decide
  intro c hc
  rcases Naming.kebabCase_chars (Naming.nameChar_pluralize hchars) c hc with h | rfl
  · exact plain_of_isNamePart h
  · exact hdash

theorem stubNames_sound (hchars : ∀ c ∈ t.name.toList, Naming.NameChar c)
    (hkey : isIdentifier t.keyColumn.toList = true) (hword : t.keyColumn ∉ keywords) : t.stubNames.Sound := by
  have hprefix : (Word.text "/api/").Sound := by decide +kernel
  have hplural : ∀ c ∈ (Naming.snakeCase (Naming.pluralize t.name)).toList, isNamePart c = true :=
    fun c hc => (Naming.nameChar_snakeCase (Naming.nameChar_pluralize hchars) c hc).1
  have hsingle : ∀ c ∈ (Naming.snakeCase (Naming.singularize t.name)).toList, isNamePart c = true :=
    fun c hc => (Naming.nameChar_snakeCase (Naming.nameChar_singularize hchars) c hc).1
  have hmodel : ∀ c ∈ (Naming.pascalCase (Naming.singularize t.name)).toList, isNamePart c = true :=
    Naming.pascalCase_chars (Naming.nameChar_singularize hchars)
  have hbase : (Word.text t.basePath).Sound := plain_append hprefix (resourceName_sound hchars)
  rw [stubNames]
  exact .of_parts (fun c hc => (hchars c hc).1) hplural hsingle hmodel hbase hkey hword

theorem docLine_sound (hchars : ∀ c ∈ t.name.toList, Naming.NameChar c) : (Stub.docLine t.name).Sound := by
  have hfront : ∀ c ∈ "CRUD routes for the ".toList, Plain c := by
    rw [← List.all_iff_forall_prop]
    decide +kernel
  have hback : ∀ c ∈ (" table.\n\nGenerated by schema-integrity from the live schema. " ++
      "This file is never\noverwritten; edit it freely.\n").toList, Plain c := by
    rw [← List.all_iff_forall_prop]
    decide +kernel
  refine (Stub.sound_code _ _ _).mpr ⟨?_, nofun⟩
  have htext : ("CRUD routes for the " ++ t.name ++ " table.\n\nGenerated by schema-integrity from the live schema. " ++
      "This file is never\noverwritten; edit it freely.\n").toList = "CRUD routes for the ".toList ++ (t.name.toList ++
        (" table.\n\nGenerated by schema-integrity from the live schema. " ++
          "This file is never\noverwritten; edit it freely.\n").toList) := by
    simp
  rw [Word.Sound, htext]
  exact List.forall_mem_append.mpr ⟨hfront, List.forall_mem_append.mpr
    ⟨fun c hc => (plain_of_isNamePart (hchars c hc).1).1, hback⟩⟩

theorem pathsMatch_item (hkey : isIdentifier t.keyColumn.toList = true) :
    RoutePath.pathsMatch (t.basePath ++ "/\x7b" ++ t.keyColumn ++ "\x7d") t.itemPath = true := by
  have hslash : '/' ∉ t.keyColumn.toList := by
    intro h
    cases isNamePart_of_identifier hkey _ h
  have hbraced : t.basePath ++ "/\x7b" ++ t.keyColumn ++ "\x7d" = String.ofList
      ("/api/".toList ++ t.resourceName.toList ++ '/' :: ('\x7b' :: (t.keyColumn.toList ++ ['\x7d']))) := by
    simp [← String.toList_inj, basePath]
  have hmarked : t.itemPath =
      String.ofList ("/api/".toList ++ t.resourceName.toList ++ '/' :: (':' :: t.keyColumn.toList)) := by
    simp [← String.toList_inj, itemPath, basePath]
  rw [hbraced, hmarked, RoutePath.pathsMatch, RoutePath.segments_last _ (by simp) (by simpa using hslash),
    RoutePath.segments_last _ (by simp) (by simpa using hslash)]
  refine RoutePath.segmentsMatch_last ?_ _
  simp [RoutePath.segmentMatches, RoutePath.isParameterSegment]

theorem exists_covers {routes : List Route} (h : ∀ x ∈ t.stubNames.endpoints, ∃ r ∈ routes, r.method = x.1 ∧ r.path = x.2)
    (hkey : isIdentifier t.keyColumn.toList = true) {expected : Route} (he : expected ∈ t.crudRoutes) :
    ∃ r ∈ routes, r.covers expected = true := by
  have hbase (path : String) : RoutePath.pathsMatch path path = true := RoutePath.segmentsMatch_refl _
  have hitem := pathsMatch_item hkey
  have hendpoint : ∃ x ∈ t.stubNames.endpoints, x.1 = expected.method ∧ RoutePath.pathsMatch x.2 expected.path = true := by
    simp only [crudRoutes, List.mem_cons, List.not_mem_nil, or_false] at he
    rcases he with rfl | rfl | rfl | rfl | rfl
    · exact ⟨_, .head _, rfl, hbase _⟩
    · exact ⟨_, .tail _ (.head _), rfl, hitem⟩
    · exact ⟨_, .tail _ (.tail _ (.head _)), rfl, hbase _⟩
    · exact ⟨_, .tail _ (.tail _ (.tail _ (.head _))), rfl, hitem⟩
    · exact ⟨_, .tail _ (.tail _ (.tail _ (.tail _ (.head _)))), rfl, hitem⟩
  obtain ⟨x, hx, hmethod, hpath⟩ := hendpoint
  obtain ⟨r, hr, hrm, hrp⟩ := h x hx
  refine ⟨r, hr, ?_⟩
  rw [Route.covers, hrm, hrp, hpath, hmethod]
  simp

theorem hasHead_endpoint {x : HttpMethod × String} (h : x ∈ t.stubNames.endpoints) : hasHead x.2 "/" = true := by
  simp only [Stub.Names.endpoints, List.mem_cons, List.not_mem_nil, or_false] at h
  rcases h with rfl | rfl | rfl | rfl | rfl <;> simp [hasHead, Stub.Names.item, stubNames, basePath]

/-- A stub is parsed, and of the routes that its table is expected to have none is missing with those it has. -/
theorem missingRoutes_routeStub (t : Table) (hname : isIdentifier t.name.toList = true)
    (hlower : lowercase t.name = t.name) (hkey : isIdentifier t.keyColumn.toList = true)
    (hword : t.keyColumn ∉ keywords) (hcolumns : ∀ c ∈ t.inputColumns false, c.Spellable) (source : String) :
    ∃ routes, RouteSource.extract t.routeStub source = .ok routes ∧
      ∀ s : Snapshot, s.tables = [t] → s.missingRoutes routes = [] := by
  have hchars := Naming.nameChar_of_lowercase hname hlower
  have hwritable : t.Writable := ⟨stubNames_sound hchars hkey hword, docLine_sound hchars, resourceName_sound hchars,
    fun c hc => (hcolumns c hc).writable⟩
  obtain ⟨ns, hlines, hendpoints⟩ := hwritable.exists_statedLines
  have hne : ns ≠ [] := by
    obtain ⟨m, hm, -⟩ := hendpoints _ (List.mem_cons_self ..)
    exact List.ne_nil_of_mem hm
  refine ⟨RouteSource.routesOf source (.other ns), ?_, fun s hs => ?_⟩
  · rw [RouteSource.extract, hlines.parse_eq hne t.toList_routeStub]
    rfl
  · have hroutes : ∀ x ∈ t.stubNames.endpoints,
        ∃ r ∈ RouteSource.routesOf source (.other ns), r.method = x.1 ∧ r.path = x.2 := by
      intro x hx
      obtain ⟨m, hm, hhandler⟩ := hendpoints x hx
      obtain ⟨r, hr, hmethod, hpath⟩ := RouteSource.exists_route hhandler (hasHead_endpoint hx) (Node.other ns).walk source
      exact ⟨r, List.mem_flatMap.mpr ⟨m, Node.mem_walk.mpr (.part hm .root), hr⟩, hmethod, hpath⟩
    rw [List.eq_nil_iff_forall_not_mem]
    intro expected he
    have hmem : t ∈ s.tables := hs ▸ List.mem_singleton_self t
    have hexpected : expected ∈ t.crudRoutes := by
      have := List.mem_of_mem_filter he
      rwa [hs, List.flatMap_singleton] at this
    exact (Snapshot.not_mem_missingRoutes hmem hexpected).mpr (exists_covers hroutes hkey hexpected) he

/-- A column that has to have a value. -/
def needed (name type : String) : Column := ⟨name, type, false, false, false, none, none⟩

/-- A table with columns whose names are a keyword and no identifier. -/
def orderItems : Table :=
  ⟨"order_items", [needed "order_id" "uuid", needed "class" "varchar(40)", needed "unit-price" "numeric(10,2)"],
    some ["order_id", "class"], []⟩

theorem missingRoutes_orderItems : isIdentifier orderItems.name.toList = true ∧
    lowercase orderItems.name = orderItems.name ∧ isIdentifier orderItems.keyColumn.toList = true ∧
    orderItems.keyColumn ∉ keywords ∧ (∀ c ∈ orderItems.inputColumns false, c.Spellable) ∧
    ∃ routes, RouteSource.extract orderItems.routeStub "order_items.py" = .ok routes ∧
      ∀ s : Snapshot, s.tables = [orderItems] → s.missingRoutes routes = [] := by
  have hname : isIdentifier orderItems.name.toList = true := by decide +kernel
  have hlower : lowercase orderItems.name = orderItems.name := by decide +kernel
  have hkey : isIdentifier orderItems.keyColumn.toList = true := by decide +kernel
  have hword : orderItems.keyColumn ∉ keywords := by decide +kernel
  have hcolumns : ∀ c ∈ orderItems.inputColumns false, c.Spellable := by decide +kernel
  exact ⟨hname, hlower, hkey, hword, hcolumns,
    missingRoutes_routeStub orderItems hname hlower hkey hword hcolumns "order_items.py"⟩

end Table

end SchemaConcord
