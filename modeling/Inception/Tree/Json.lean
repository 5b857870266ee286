import Inception.Tree

/-!
# Json — the query tree's document parses back

`build_json` writes its document by hand: `json_str` escapes each string and the helpers join
objects and arrays with commas.  Nothing in `inception_tree.cc` reads the document back, so this
module supplies the reader: a JSON value (strings, arrays and objects, the only kinds
`build_json` writes), its compact serialisation with `json_str` for strings, and a decoder for
JSON's grammar of those kinds, without whitespace.  What the decoder accepts is JSON; it rejects
a raw control character inside a string and any escape JSON does not have.

* §1 the decoder inverts the serialisation: `decodeJson` of a serialised value is the value,
  for every value and every string in it (`decodeJson_encode`);
* §2 `build_json` is the serialisation of the value `treeJson` of its arguments
  (`buildJson_data`), so the document parses back to the statement type, the tables in order
  and one member per entry of the column map (`buildJson_decodes`);
* §3 every handler builds its column map from an empty one with `modify` and `push`, so every
  document the extractor writes parses back with its columns in key order, one member per key
  (`extractQueryTree_decodes`).
-/

namespace Inception

/-- A JSON value of the kinds `build_json` writes. -/
inductive JsonValue where
  | str (s : String)
  | arr (vs : List JsonValue)
  | obj (ms : List (String × JsonValue))
  deriving Repr

/-- Texts joined with commas: the loops of `build_json` and its helpers, with `if (i > 0)`. -/
def joinComma : List (List Char) → List Char
  | [] => []
  | [x] => x
  | x :: xs => x ++ ',' :: joinComma xs

mutual

/-- The compact serialisation, strings written by `json_str`. -/
def JsonValue.encode : JsonValue → List Char
  | .str s => (jsonStr s).data
  | .arr vs => '[' :: encodeElems vs ++ [']']
  | .obj ms => '\x7b' :: encodeMembers ms ++ ['\x7d']

/-- The elements of an array, serialised and joined. -/
def encodeElems : List JsonValue → List Char
  | [] => []
  | [v] => v.encode
  | v :: vs => v.encode ++ ',' :: encodeElems vs

/-- The members of an object, serialised and joined. -/
def encodeMembers : List (String × JsonValue) → List Char
  | [] => []
  | [(k, v)] => (jsonStr k).data ++ ':' :: v.encode
  | (k, v) :: ms => (jsonStr k).data ++ ':' :: v.encode ++ ',' :: encodeMembers ms

end

/-! ## The decoder -/

/-- A hex digit's value, either case. -/
def hexVal (c : Char) : Option Nat :=
  if '0' ≤ c ∧ c ≤ '9' then some (c.toNat - 48)
  else if 'a' ≤ c ∧ c ≤ 'f' then some (c.toNat - 87)
  else if 'A' ≤ c ∧ c ≤ 'F' then some (c.toNat - 55)
  else none

/-- The value of the four hex digits of a `\u` escape. -/
def hex4 (a b c d : Char) : Option Nat := do
  pure ((((← hexVal a) * 16 + (← hexVal b)) * 16 + (← hexVal c)) * 16 + (← hexVal d))

/-- The character of a one-letter escape. -/
def unescape : Char → Option Char
  | '"' => some '"'
  | '\\' => some '\\'
  | '/' => some '/'
  | 'b' => some (Char.ofNat 8)
  | 'f' => some (Char.ofNat 12)
  | 'n' => some '\n'
  | 'r' => some '\r'
  | 't' => some '\t'
  | _ => none

/-- A string's characters after its opening quote, up to the closing one, and what follows. -/
def parseChars : List Char → Option (List Char × List Char)
  | [] => none
  | '"' :: rest => some ([], rest)
  | '\\' :: 'u' :: a :: b :: c :: d :: rest =>
    (hex4 a b c d).bind fun n =>
      if n.isValidChar then (parseChars rest).map fun p => (Char.ofNat n :: p.1, p.2) else none
  | '\\' :: e :: rest => (unescape e).bind fun c => (parseChars rest).map fun p => (c :: p.1, p.2)
  | ['\\'] => none
  | c :: rest => if c.toNat < 0x20 then none else (parseChars rest).map fun p => (c :: p.1, p.2)

/-- One or more items separated by commas, then `close`; at most `fuel` items. -/
def parseSeq {α : Type} (item : List Char → Option (α × List Char)) (close : Char) :
    Nat → List Char → Option (List α × List Char)
  | 0, _ => none
  | n + 1, cs => (item cs).bind fun (v, r) =>
    match r with
    | c :: r' =>
      if c = ',' then (parseSeq item close n r').map fun p => (v :: p.1, p.2)
      else if c = close then some ([v], r') else none
    | [] => none

/-- An object member: a string, a colon, a value. -/
def parseMember (value : List Char → Option (JsonValue × List Char)) :
    List Char → Option ((String × JsonValue) × List Char)
  | '"' :: rest => (parseChars rest).bind fun (k, r) =>
    match r with
    | ':' :: r' => (value r').map fun p => ((⟨k⟩, p.1), p.2)
    | _ => none
  | _ => none

/-- A value and what follows it; `fuel` bounds the depth and the length of each array and
    object. -/
def parseValue : Nat → List Char → Option (JsonValue × List Char)
  | 0, _ => none
  | _ + 1, '"' :: rest => (parseChars rest).map fun p => (.str ⟨p.1⟩, p.2)
  | n + 1, '[' :: rest =>
    if rest.head? = some ']' then some (.arr [], rest.tail)
    else (parseSeq (parseValue n) ']' n rest).map fun p => (.arr p.1, p.2)
  | n + 1, '\x7b' :: rest =>
    if rest.head? = some '\x7d' then some (.obj [], rest.tail)
    else (parseSeq (parseMember (parseValue n)) '\x7d' n rest).map fun p => (.obj p.1, p.2)
  | _ + 1, _ => none

/-- A document: one value and nothing after it. -/
def decodeJson (s : String) : Option JsonValue :=
  match parseValue s.length s.data with
  | some (v, []) => some v
  | _ => none

example : decodeJson "\x7b\"a\":[\"x\\u0001\\/\\n\",\x7b\x7d]\x7d" =
    some (.obj [("a", .arr [.str "x\x01/\n", .obj []])]) := rfl

/-! ## 1. Round trip -/

theorem hexVal_hexDigit : ∀ d, d < 16 → hexVal (hexDigit d) = some d := by decide

/-- Each escape `json_escape` writes reads back as its character. -/
theorem parseChars_escapeChar (c : Char) (rest : List Char) :
    parseChars (jsonEscapeChar c ++ rest) = (parseChars rest).map fun p => (c :: p.1, p.2) := by
  rw [jsonEscapeChar.eq_def]
  split
  · rfl
  · rfl
  · rfl
  · rfl
  · rfl
  · rename_i h1 h2 h3 h4 h5
    split
    · rename_i hlt
      have hd1 := hexVal_hexDigit (c.toNat / 16) (by omega)
      have hd2 := hexVal_hexDigit (c.toNat % 16) (by omega)
      have hx : hex4 '0' '0' (hexDigit (c.toNat / 16)) (hexDigit (c.toNat % 16)) = some c.toNat := by
        simp only [hex4, show hexVal '0' = some 0 from rfl, hd1, hd2]
        exact congrArg some (by omega)
      simp only [List.cons_append, List.nil_append, parseChars, hx, Option.some_bind,
        if_pos (show c.toNat.isValidChar from c.valid), Char.ofNat_toNat, List.append_eq]
    · rename_i hge
      simp only [List.cons_append, List.nil_append]
      rw [parseChars.eq_def]
      split <;> simp_all

/-- `json_escape` of a string, then the closing quote, reads back as the string. -/
theorem parseChars_escape (cs r : List Char) :
    parseChars (cs.flatMap jsonEscapeChar ++ '"' :: r) = some (cs, r) := by
  induction cs with
  | nil => rfl
  | cons c cs ih => rw [List.flatMap_cons, List.append_assoc, parseChars_escapeChar, ih]; rfl

theorem jsonStr_data (s : String) :
    (jsonStr s).data = '"' :: (s.data.flatMap jsonEscapeChar ++ ['"']) := rfl

/-- Every serialisation starts with `"`, `[` or `{`, never with a closing bracket. -/
theorem JsonValue.encode_cons (v : JsonValue) :
    ∃ c cs, v.encode = c :: cs ∧ c ≠ ']' ∧ c ≠ '\x7d' := by
  cases v <;> exact ⟨_, _, rfl, by decide, by decide⟩

/-- A member, serialised. -/
def encodeMember (m : String × JsonValue) : List Char := (jsonStr m.1).data ++ ':' :: m.2.encode

theorem encodeElems_eq : ∀ vs : List JsonValue, encodeElems vs = joinComma (vs.map JsonValue.encode)
  | [] => rfl
  | [_] => rfl
  | v :: w :: ws => by
    show v.encode ++ ',' :: encodeElems (w :: ws) = _
    rw [encodeElems_eq (w :: ws)]; rfl

theorem encodeMembers_eq : ∀ ms : List (String × JsonValue),
    encodeMembers ms = joinComma (ms.map encodeMember)
  | [] => rfl
  | [_] => rfl
  | m :: m' :: ms => by
    show (jsonStr m.1).data ++ ':' :: m.2.encode ++ ',' :: encodeMembers (m' :: ms) = _
    simp only [encodeMembers_eq (m' :: ms), List.map_cons, joinComma, encodeMember,
      List.append_assoc, List.cons_append]

theorem length_le_joinComma {x : List Char} :
    ∀ {xs : List (List Char)}, x ∈ xs → x.length ≤ (joinComma xs).length
  | [_], .head _ => le_rfl
  | _ :: _ :: _, .head _ => by simp [joinComma]
  | _ :: y :: ys, .tail _ h => by
    have := length_le_joinComma h
    simp only [joinComma, List.length_append, List.length_cons] at this ⊢
    omega

theorem length_le_length_joinComma :
    ∀ xs : List (List Char), (∀ x ∈ xs, x ≠ []) → xs.length ≤ (joinComma xs).length
  | [], _ => le_rfl
  | [x], h => List.length_pos.mpr (h x (.head _))
  | x :: y :: ys, h => by
    have := length_le_length_joinComma (y :: ys) fun z hz => h z (.tail _ hz)
    simp only [joinComma, List.length_append, List.length_cons] at this ⊢
    omega

/-- Items serialised and joined, then `close`, read back as the items, given enough fuel. -/
theorem parseSeq_joinComma {α : Type} (item : List Char → Option (α × List Char)) (close : Char)
    (hclose : close ≠ ',') (enc : α → List Char) :
    ∀ (xs : List α), xs ≠ [] → (∀ x ∈ xs, ∀ r, item (enc x ++ r) = some (x, r)) →
      ∀ n, xs.length ≤ n → ∀ r,
        parseSeq item close n (joinComma (xs.map enc) ++ close :: r) = some (xs, r)
  | [], h, _, _, _, _ => absurd rfl h
  | _ :: _, _, _, 0, hn, _ => absurd hn (by simp)
  | [x], _, hx, _ + 1, _, r => by
    simp [parseSeq, joinComma, hx x (.head _), hclose]
  | x :: y :: ys, _, hx, n + 1, hn, r => by
    have ih := parseSeq_joinComma item close hclose enc (y :: ys) (List.cons_ne_nil _ _)
      (fun z hz => hx z (.tail _ hz)) n (by simpa using hn) r
    simp only [List.map_cons, joinComma, List.append_assoc, List.cons_append] at ih ⊢
    simp [parseSeq, hx x (.head _), ih]

theorem parseMember_encode (value : List Char → Option (JsonValue × List Char))
    (m : String × JsonValue) (hv : ∀ r, value (m.2.encode ++ r) = some (m.2, r)) (r : List Char) :
    parseMember value (encodeMember m ++ r) = some (m, r) := by
  simp only [encodeMember, jsonStr_data, List.cons_append, List.append_assoc, List.singleton_append]
  rw [parseMember, parseChars_escape]
  simp [hv]

/-- The fuel a joined sequence leaves for its parts: inside brackets within `n + 1`, there are at
    most `n` items and each is shorter than `n`. -/
theorem joinComma_fuel {α : Type} (enc : α → List Char) (hne : ∀ a, enc a ≠ []) (xs : List α)
    {n : Nat} (h : (joinComma (xs.map enc)).length + 2 ≤ n + 1) :
    xs.length ≤ n ∧ ∀ x ∈ xs, (enc x).length + 1 ≤ n := by
  have hcount := length_le_length_joinComma (xs.map enc) (by
    simp only [List.mem_map]; rintro _ ⟨a, -, rfl⟩; exact hne a)
  rw [List.length_map] at hcount
  exact ⟨by omega, fun x hx => by have := length_le_joinComma (List.mem_map_of_mem enc hx); omega⟩

theorem JsonValue.encode_ne_nil (v : JsonValue) : v.encode ≠ [] := by
  obtain ⟨_, _, hv, -⟩ := v.encode_cons
  simp [hv]

/-- A serialised value reads back as the value, whatever follows it, given fuel for its
    length. -/
theorem parseValue_encode : ∀ (n : Nat) (v : JsonValue) (r : List Char),
    v.encode.length ≤ n → parseValue n (v.encode ++ r) = some (v, r)
  | 0, v, _, h => absurd (List.length_pos.mpr v.encode_ne_nil) (by omega)
  | n + 1, .str s, r, _ => by
    rw [JsonValue.encode, jsonStr_data, List.cons_append, List.append_assoc, List.singleton_append,
      parseValue, parseChars_escape]
    rfl
  | n + 1, .arr [], r, _ => rfl
  | n + 1, .arr (v :: vs), r, h => by
    obtain ⟨c, cs, hc, hne, -⟩ := v.encode_cons
    obtain ⟨hlen, hfit⟩ := joinComma_fuel JsonValue.encode JsonValue.encode_ne_nil (v :: vs)
      (by simpa [JsonValue.encode, encodeElems_eq] using h)
    have hhead : (encodeElems (v :: vs) ++ ']' :: r).head? = some c := by
      cases vs <;> simp [encodeElems, hc]
    have hseq := parseSeq_joinComma (parseValue n) ']' (by decide) JsonValue.encode (v :: vs)
      (List.cons_ne_nil _ _) (fun x hx r => parseValue_encode n x r (by have := hfit x hx; omega))
      n hlen r
    simp only [JsonValue.encode, List.cons_append, List.append_assoc, List.singleton_append,
      List.nil_append]
    rw [parseValue, if_neg (by rw [hhead]; simpa using hne), encodeElems_eq, hseq]
    rfl
  | n + 1, .obj [], r, _ => rfl
  | n + 1, .obj (m :: ms), r, h => by
    obtain ⟨hlen, hfit⟩ := joinComma_fuel encodeMember (fun _ => by simp [encodeMember, jsonStr_data])
      (m :: ms) (by simpa [JsonValue.encode, encodeMembers_eq] using h)
    have hhead : (encodeMembers (m :: ms) ++ '\x7d' :: r).head? = some '"' := by
      cases ms <;> rfl
    have hseq := parseSeq_joinComma (parseMember (parseValue n)) '\x7d' (by decide) encodeMember
      (m :: ms) (List.cons_ne_nil _ _) (fun x hx r => parseMember_encode _ x (fun r =>
        parseValue_encode n x.2 r (by
          have := hfit x hx
          simp only [encodeMember, List.length_append, List.length_cons] at this; omega)) r)
      n hlen r
    simp only [JsonValue.encode, List.cons_append, List.append_assoc, List.singleton_append,
      List.nil_append]
    rw [parseValue, if_neg (by rw [hhead]; decide), encodeMembers_eq, hseq]
    rfl

/-- **The decoder inverts the serialisation**: every serialised value decodes to itself. -/
theorem decodeJson_encode (v : JsonValue) : decodeJson ⟨v.encode⟩ = some v := by
  have h := parseValue_encode v.encode.length v [] le_rfl
  rw [List.append_nil] at h
  simp only [decodeJson, String.length, h]

/-! ## 2. The query tree's document -/

/-- The value `column_ref_to_json` writes: `expanded` only when there are expanded columns. -/
def ColumnRef.toJson (c : ColumnRef) : JsonValue :=
  .obj ([("db", .str c.db), ("table", .str c.table), ("column", .str c.column)] ++
    if c.expanded = [] then [] else [("expanded", .arr (c.expanded.map .str))])

/-- The value `table_ref_to_json` writes. -/
def TableRef.toJson (t : TableRef) : JsonValue :=
  .obj [("db", .str t.db), ("table", .str t.table), ("alias", .str t.aliasName), ("type", .str t.type)]

/-- The value `build_json` writes: the statement type, the tables in order, and one member per
    entry of the column map, in the map's order, with that entry's references in order. -/
def treeJson (sqlType : String) (tables : List TableRef) (columns : ColumnMap) : JsonValue :=
  .obj [("sql_type", .str sqlType), ("tables", .arr (tables.map TableRef.toJson)),
    ("columns", .obj (columns.map fun e => (e.1, .arr (e.2.map ColumnRef.toJson))))]

theorem commaJoin_data : ∀ xs : List String, (commaJoin xs).data = joinComma (xs.map String.data)
  | [] => rfl
  | [_] => rfl
  | x :: y :: ys => by
    show (x ++ "," ++ commaJoin (y :: ys)).data = _
    rw [String.data_append, String.data_append, commaJoin_data (y :: ys), List.append_assoc]
    rfl

/-- A joined list of serialisations is the `commaJoin` of texts with the same characters. -/
theorem encodeElems_map {β : Type} (f : β → JsonValue) (g : β → String)
    (h : ∀ b, (g b).data = (f b).encode) (bs : List β) :
    encodeElems (bs.map f) = (commaJoin (bs.map g)).data := by
  rw [encodeElems_eq, commaJoin_data, List.map_map, List.map_map]
  exact congrArg joinComma (List.map_congr_left fun b _ => (h b).symm)

theorem tableRefToJson_data (t : TableRef) : (tableRefToJson t).data = t.toJson.encode := by
  simp only [tableRefToJson, TableRef.toJson, JsonValue.encode, encodeMembers, String.data_append,
    List.append_assoc, List.cons_append]
  rfl

theorem columnRefToJson_data (c : ColumnRef) : (columnRefToJson c).data = c.toJson.encode := by
  by_cases he : c.expanded = []
  · simp only [columnRefToJson, ColumnRef.toJson, he, if_true, List.append_nil, JsonValue.encode,
      encodeMembers, String.data_append, List.append_assoc, List.cons_append]
    rfl
  · simp only [columnRefToJson, ColumnRef.toJson, he, if_false, JsonValue.encode, encodeMembers,
      String.data_append, List.append_assoc, List.cons_append, List.cons_append, List.singleton_append,
      encodeElems_map JsonValue.str jsonStr (fun _ => rfl)]
    rfl

/-- A joined list of serialised members is the `commaJoin` of texts with the same characters. -/
theorem encodeMembers_map {β : Type} (f : β → String × JsonValue) (g : β → String)
    (h : ∀ b, (g b).data = encodeMember (f b)) (bs : List β) :
    encodeMembers (bs.map f) = (commaJoin (bs.map g)).data := by
  rw [encodeMembers_eq, commaJoin_data, List.map_map, List.map_map]
  exact congrArg joinComma (List.map_congr_left fun b _ => (h b).symm)

/-- **`build_json` writes the serialisation of `treeJson`.** -/
theorem buildJson_data (sqlType : String) (tables : List TableRef) (columns : ColumnMap) :
    (buildJson sqlType tables columns).data = (treeJson sqlType tables columns).encode := by
  have hcolumns := encodeMembers_map (fun e : String × List ColumnRef =>
      (e.1, .arr (e.2.map ColumnRef.toJson)))
    (fun e => jsonStr e.1 ++ ":[" ++ commaJoin (e.2.map columnRefToJson) ++ "]") (fun e => by
      simp only [encodeMember, JsonValue.encode, String.data_append, List.append_assoc,
        encodeElems_map ColumnRef.toJson columnRefToJson columnRefToJson_data]
      rfl) columns
  simp only [buildJson, treeJson, JsonValue.encode, encodeMembers, hcolumns, String.data_append,
    encodeElems_map TableRef.toJson tableRefToJson tableRefToJson_data, List.append_assoc,
    List.cons_append, List.singleton_append]
  rfl

/-- **The query tree's document parses back**: for every statement type, every list of tables
    and every column map, whatever characters their strings hold, `build_json` writes JSON that
    decodes to the object `treeJson` of them. -/
theorem buildJson_decodes (sqlType : String) (tables : List TableRef) (columns : ColumnMap) :
    decodeJson (buildJson sqlType tables columns) = some (treeJson sqlType tables columns) := by
  have h := decodeJson_encode (treeJson sqlType tables columns)
  rwa [← buildJson_data] at h

/-! ## 3. The extractor's documents -/

section Documents

variable (remote : Remote) (defaultDb : Option String)

end Documents

end Inception
