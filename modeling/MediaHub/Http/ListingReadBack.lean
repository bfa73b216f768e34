import MediaHub.Http.MultipartUpload

namespace MediaHub.Http

open Result
open MediaHub.Core (isXml10Character)
open Xml (Forest Tag Token normalizeEol)

namespace Parts

variable {ε : Type}

/-- Every text of the server can be made. -/
def Formatted : Parts ε → Prop
  | .nil => True
  | .plain _ value next => value.isOk = true ∧ next.Formatted
  | .client _ _ next => next.Formatted
  | .listing _ _ next => next.Formatted
  | .group _ inner next => inner.Formatted ∧ next.Formatted

/-- The texts that are pushed as the client has sent them. -/
def clients : Parts ε → List Text
  | .nil => []
  | .plain _ _ next => next.clients
  | .client _ value next => value :: next.clients
  | .listing _ _ next => next.clients
  | .group _ inner next => inner.clients ++ next.clients

/-- The keys, prefixes and markers. -/
def listings : Parts ε → List Text
  | .nil => []
  | .plain _ _ next => next.listings
  | .client _ _ next => next.listings
  | .listing _ value next => value :: next.listings
  | .group _ inner next => inner.listings ++ next.listings

/-- The texts of `push_listing_element`, and no others, have names that a client decodes. -/
def marked : Parts ε → Bool
  | .nil => true
  | .plain name _ next => !listingNames.contains name && next.marked
  | .client name _ next => !listingNames.contains name && next.marked
  | .listing name _ next => listingNames.contains name && next.marked
  | .group name inner next => !listingNames.contains name && inner.marked && next.marked

def plainText (value : Except ε PlainText) : Text := (value.toOption.map Subtype.val).getD []

/-- The elements as XML, with the texts of `push_listing_element` changed by `wire`. -/
def forest (wire : Text → Text) : Parts ε → Forest
  | .nil => .nil
  | .plain name value next => .cons (Tag.plain name) (plainText value) .nil (next.forest wire)
  | .client name value next => .cons (Tag.plain name) value .nil (next.forest wire)
  | .listing name value next => .cons (Tag.plain name) (wire value) .nil (next.forest wire)
  | .group name inner next =>
      .cons (Tag.plain name) [] (inner.forest wire) (next.forest wire)

/-- The elements in the order of their ends, with the texts as they are stored. -/
def stored : Parts ε → List (Xml.Name × Text)
  | .nil => []
  | .plain name value next => (name, plainText value) :: next.stored
  | .client name value next => (name, value) :: next.stored
  | .listing name value next => (name, value) :: next.stored
  | .group name inner next => inner.stored ++ (name, []) :: next.stored

theorem pushElement_eq_ok_iff {invalid : ε} {output value written : Text} {name : Xml.Name} :
    pushElement invalid output name.text value = .ok written ↔
      value.all isXml10Character = true ∧
        written = output ++ (Forest.single (Tag.plain name) value .nil).write := by
  rw [← pushForest_leaf, pushForest_eq_ok_iff]
  simp [Forest.single, Forest.texts]

theorem write_leaf (tag : Tag) (text : Text) (next : Forest) :
    (Forest.cons tag text .nil next).write =
      (Forest.single tag text .nil).write ++ next.write := by
  simp only [Forest.single, Forest.write_cons, Forest.write_nil, List.append_nil,
    List.nil_append, List.append_assoc]

theorem write_group (name : Xml.Name) (inner next : Forest) :
    (Forest.cons (Tag.plain name) [] inner next).write =
      '<' :: name.text ++ ['>'] ++ inner.write ++ "</".toList ++ name.text ++ ['>'] ++
        next.write := by
  simp [Forest.write_cons, Xml.escape, Token.write, Tag.write, Tag.plain]

/-- The pushes go through if every text can be made and written, and then they write the XML of
the elements. -/
theorem push_eq_ok_iff {invalid : ε} {encodingUrl : Bool} {parts : Parts ε}
    {output written : Text} :
    parts.push invalid encodingUrl output = .ok written ↔
      parts.Formatted ∧ (∀ text ∈ parts.clients, text.all isXml10Character = true) ∧
        (∀ text ∈ parts.listings, (listingText encodingUrl text).all isXml10Character = true) ∧
        written = output ++ (parts.forest (listingText encodingUrl)).write := by
  induction parts generalizing output written with
  | nil =>
      rw [push, forest, Forest.write_nil, List.append_nil, Except.ok.injEq]
      constructor
      · intro h
        exact ⟨trivial, nofun, nofun, h.symm⟩
      · intro h
        exact h.2.2.2.symm
  | plain name value next ih =>
      cases value with
      | error error =>
          rw [push, error_bind]
          simp [Formatted, Except.isOk, Except.toBool]
      | ok value =>
          have htext : plainText (ε := ε) (.ok value) = value.1 := rfl
          rw [push, ok_bind, bind_eq_ok_iff, forest, write_leaf, htext]
          simp only [pushElement_eq_ok_iff, ih, value.2.1, true_and, exists_eq_left,
            List.append_assoc, Formatted, clients, listings]
          simp [Except.isOk, Except.toBool]
  | client name value next ih =>
      rw [push, bind_eq_ok_iff, forest, write_leaf]
      simp only [pushElement_eq_ok_iff, ih, Formatted, clients, listings, List.forall_mem_cons]
      constructor
      · rintro ⟨_, ⟨hvalue, rfl⟩, hformatted, hclients, hlistings, rfl⟩
        exact ⟨hformatted, ⟨hvalue, hclients⟩, hlistings, List.append_assoc _ _ _⟩
      · rintro ⟨hformatted, ⟨hvalue, hclients⟩, hlistings, rfl⟩
        exact ⟨_, ⟨hvalue, rfl⟩, hformatted, hclients, hlistings,
          (List.append_assoc _ _ _).symm⟩
  | listing name value next ih =>
      rw [push, bind_eq_ok_iff, forest, write_leaf]
      simp only [pushElement_eq_ok_iff, ih, Formatted, clients, listings, List.forall_mem_cons]
      constructor
      · rintro ⟨_, ⟨hvalue, rfl⟩, hformatted, hclients, hlistings, rfl⟩
        exact ⟨hformatted, hclients, ⟨hvalue, hlistings⟩, List.append_assoc _ _ _⟩
      · rintro ⟨hformatted, hclients, ⟨hvalue, hlistings⟩, rfl⟩
        exact ⟨_, ⟨hvalue, rfl⟩, hformatted, hclients, hlistings,
          (List.append_assoc _ _ _).symm⟩
  | group name inner next ihinner ihnext =>
      rw [push, bind_eq_ok_iff, forest, write_group]
      simp only [ihinner, ihnext, Formatted, clients, listings, List.forall_mem_append]
      constructor
      · rintro ⟨_, ⟨hinner, hinner', hinner'', rfl⟩, hnext, hnext', hnext'', rfl⟩
        exact ⟨⟨hinner, hnext⟩, ⟨hinner', hnext'⟩, ⟨hinner'', hnext''⟩, by
          simp only [List.append_assoc]⟩
      · rintro ⟨⟨hinner, hnext⟩, ⟨hinner', hnext'⟩, ⟨hinner'', hnext''⟩, rfl⟩
        exact ⟨_, ⟨hinner, hinner', hinner'', rfl⟩, hnext, hnext', hnext'', by
          simp only [List.append_assoc]⟩

end Parts

/-- The document that a page is. -/
def pageDocument {ε : Type} (name : Xml.Name) (encodingUrl : Bool) (parts : Parts ε) :
    Xml.Document where
  tag := s3Tag name
  text := []
  children := parts.forest (listingText encodingUrl)

theorem renderPage_eq_ok_iff {ε : Type} {invalid : ε} {name : Xml.Name} {encodingUrl : Bool}
    {parts : Parts ε} {page : Text} :
    renderPage invalid name encodingUrl parts = .ok page ↔
      parts.Formatted ∧ (∀ text ∈ parts.clients, text.all isXml10Character = true) ∧
        (∀ text ∈ parts.listings, (listingText encodingUrl text).all isXml10Character = true) ∧
        page = (pageDocument name encodingUrl parts).write := by
  have hwrite : (pageDocument name encodingUrl parts).write = xmlDocumentStart name.text ++
      (parts.forest (listingText encodingUrl)).write ++ "</".toList ++ name.text ++ ['>'] := by
    rw [xmlDocumentStart_eq, Xml.Document.write, Xml.Document.forest, Forest.single,
      Forest.write_cons, Forest.write_nil]
    simp [pageDocument, s3Tag, Xml.escape, Token.write]
  rw [renderPage, bind_eq_ok_iff, hwrite]
  simp only [Parts.push_eq_ok_iff, pure_eq_ok_iff]
  constructor
  · rintro ⟨_, ⟨hformatted, hclients, hlistings, rfl⟩, rfl⟩
    exact ⟨hformatted, hclients, hlistings, rfl⟩
  · rintro ⟨hformatted, hclients, hlistings, rfl⟩
    exact ⟨_, ⟨hformatted, hclients, hlistings, rfl⟩, rfl⟩

/-- Whether a client decodes the text of an element. -/
def decodes (encodingUrl : Bool) (name : Xml.Name) : Bool :=
  encodingUrl && listingNames.contains name

theorem decodes_plain (encodingUrl : Bool) {name : Xml.Name}
    (h : listingNames.contains name = false) : decodes encodingUrl name = false := by
  rw [decodes, h, Bool.and_false]

theorem decodes_listing (encodingUrl : Bool) {name : Xml.Name}
    (h : listingNames.contains name = true) : decodes encodingUrl name = encodingUrl := by
  rw [decodes, h, Bool.and_true]

/-- A name is told from others by its bytes. -/
theorem contains_bytes (name : Xml.Name) :
    (listingNames.map fun name => Utf8.bytes name.text).contains (Utf8.bytes name.text) =
      listingNames.contains name := by
  have hinjective : ∀ other : Xml.Name,
      Utf8.bytes other.text = Utf8.bytes name.text ↔ other = name := by
    intro other
    constructor
    · intro h
      have htext := Utf8.bytes_injective h
      cases other
      cases name
      cases htext
      rfl
    · rintro rfl
      rfl
  rw [Bool.eq_iff_iff, List.contains_iff_mem, List.contains_iff_mem, List.mem_map]
  simp only [hinjective, exists_eq_right]

/-- What stands in the page for the text of an element. -/
def wireText (encodingUrl : Bool) (element : Xml.Name × Text) : Text :=
  if decodes encodingUrl element.1 then s3UrlEncode element.2 else element.2

namespace Parts

variable {ε : Type}

theorem closed_forest {parts : Parts ε} (encodingUrl : Bool) (h : parts.marked = true) :
    (parts.forest (listingText encodingUrl)).closed normalizeEol =
      parts.stored.map fun element =>
        (Utf8.bytes element.1.text, normalizeEol (wireText encodingUrl element)) := by
  have hplain : ∀ {name : Xml.Name} (text : Text), listingNames.contains name = false →
      wireText encodingUrl (name, text) = text := by
    intro name text hname
    rw [wireText, decodes_plain encodingUrl hname]
    rfl
  have hlisting : ∀ {name : Xml.Name} (text : Text), listingNames.contains name = true →
      wireText encodingUrl (name, text) = listingText encodingUrl text := by
    intro name text hname
    rw [wireText, decodes_listing encodingUrl hname, listingText]
  induction parts with
  | nil => rfl
  | plain name value next ih =>
      simp only [marked, Bool.and_eq_true, Bool.not_eq_true'] at h
      rw [forest, Forest.closed, stored, List.map_cons, ih h.2, hplain _ h.1]
      rfl
  | client name value next ih =>
      simp only [marked, Bool.and_eq_true, Bool.not_eq_true'] at h
      rw [forest, Forest.closed, stored, List.map_cons, ih h.2, hplain _ h.1]
      rfl
  | listing name value next ih =>
      simp only [marked, Bool.and_eq_true] at h
      rw [forest, Forest.closed, stored, List.map_cons, ih h.2, hlisting _ h.1]
      rfl
  | group name inner next ihinner ihnext =>
      simp only [marked, Bool.and_eq_true, Bool.not_eq_true'] at h
      rw [forest, Forest.closed, stored, List.map_append, List.map_cons, ihinner h.1.2,
        ihnext h.2, hplain _ h.1.1]
      rfl

/-- What holds of the text of every element, by where the text comes from. -/
theorem forall_stored_iff {parts : Parts ε} {P : Xml.Name → Text → Prop} {Q : Text → Prop}
    (hmarked : parts.marked = true) (hformatted : parts.Formatted)
    (hplain : ∀ name text, listingNames.contains name = false → (P name text ↔ '\r' ∉ text))
    (hlisting : ∀ name text, listingNames.contains name = true → (P name text ↔ Q text)) :
    (∀ element ∈ parts.stored, P element.1 element.2) ↔
      (∀ text ∈ parts.clients, '\r' ∉ text) ∧ ∀ text ∈ parts.listings, Q text := by
  induction parts with
  | nil => simp [stored, clients, listings]
  | plain name value next ih =>
      simp only [marked, Bool.and_eq_true, Bool.not_eq_true'] at hmarked
      obtain ⟨hok, hnext⟩ := hformatted
      have hvalue : '\r' ∉ plainText value := by
        cases value with
        | ok value => exact value.2.2
        | error error => simp [plainText, Except.toOption]
      rw [stored, List.forall_mem_cons, ih hmarked.2 hnext, clients, listings,
        hplain _ _ hmarked.1]
      exact and_iff_right hvalue
  | client name value next ih =>
      simp only [marked, Bool.and_eq_true, Bool.not_eq_true'] at hmarked
      rw [stored, List.forall_mem_cons, ih hmarked.2 hformatted, clients, listings,
        List.forall_mem_cons, hplain _ _ hmarked.1, and_assoc]
  | listing name value next ih =>
      simp only [marked, Bool.and_eq_true] at hmarked
      rw [stored, List.forall_mem_cons, ih hmarked.2 hformatted, clients, listings,
        List.forall_mem_cons, hlisting _ _ hmarked.1]
      exact and_left_comm
  | group name inner next ihinner ihnext =>
      simp only [marked, Bool.and_eq_true, Bool.not_eq_true'] at hmarked
      obtain ⟨hinner, hnext⟩ := hformatted
      have hempty : P name [] := (hplain name [] hmarked.1.1).2 List.not_mem_nil
      rw [stored, List.forall_mem_append, List.forall_mem_cons, ihinner hmarked.1.2 hinner,
        ihnext hmarked.2 hnext, clients, listings, List.forall_mem_append,
        List.forall_mem_append]
      constructor
      · rintro ⟨⟨hinner, hinner'⟩, _, hnext, hnext'⟩
        exact ⟨⟨hinner, hnext⟩, hinner', hnext'⟩
      · rintro ⟨⟨hinner, hnext⟩, hinner', hnext'⟩
        exact ⟨⟨hinner, hinner'⟩, hempty, hnext, hnext'⟩

end Parts

/-- The elements that a client is to read. -/
def storedPage {ε : Type} (name : Xml.Name) (parts : Parts ε) :
    List (List UInt8 × Option Text) :=
  (parts.stored ++ [(name, [])]).map fun element : Xml.Name × Text =>
    (Utf8.bytes element.1.text, some element.2)

/-- An element that is decoded is read as it was stored, and another one if it has no carriage
return. -/
theorem decodeElement_eq_iff (encodingUrl : Bool) (element : Xml.Name × Text) :
    decodeElement encodingUrl (Utf8.bytes element.1.text,
        normalizeEol (wireText encodingUrl element)) =
      (Utf8.bytes element.1.text, some element.2) ↔
        decodes encodingUrl element.1 = true ∨ '\r' ∉ element.2 := by
  obtain ⟨name, text⟩ := element
  have heol : normalizeEol (s3UrlEncode text) = s3UrlEncode text :=
    Xml.normalizeEol_eq_self_iff.2 (carried_s3UrlEncode text).2
  have hdecode : PercentEncoding.decode (s3UrlEncode text) = some text :=
    PercentEncoding.decode_encode readable_isUrlUnreserved text
  unfold decodeElement wireText
  simp only [contains_bytes]
  rw [← decodes]
  cases decodes encodingUrl name with
  | true => simp [heol, hdecode]
  | false => simp [Xml.normalizeEol_eq_self_iff]

/-- A page is written and read back if its texts can be made, what the client has sent is carried
by XML, and its keys are encoded or carried too. -/
theorem page_survives_iff {ε : Type} (invalid : ε) (reader : Xml.Reader) (name : Xml.Name)
    {encodingUrl : Bool} {parts : Parts ε} (hmarked : parts.marked = true) :
    (∃ page, renderPage invalid name encodingUrl parts = .ok page ∧
        readPage reader encodingUrl page = .ok (storedPage name parts)) ↔
      parts.Formatted ∧ (∀ text ∈ parts.clients, Carried text) ∧
        (encodingUrl = true ∨ ∀ text ∈ parts.listings, Carried text) := by
  have hread : readPage reader encodingUrl (pageDocument name encodingUrl parts).write =
      .ok (((parts.stored ++ [(name, [])]).map fun element : Xml.Name × Text =>
        (Utf8.bytes element.1.text, normalizeEol (wireText encodingUrl element))).map
          (decodeElement encodingUrl)) := by
    have hroot : wireText encodingUrl (name, []) = [] := by
      unfold wireText
      split <;> rfl
    rw [readPage, Xml.elements_write, List.map_append, ← Parts.closed_forest encodingUrl hmarked,
      List.map_cons, List.map_nil, hroot]
    simp [Xml.Document.forest, Forest.single, Forest.closed, pageDocument, s3Tag, Except.map]
  have hsame : readPage reader encodingUrl (pageDocument name encodingUrl parts).write =
      .ok (storedPage name parts) ↔
        ∀ element ∈ parts.stored, decodes encodingUrl element.1 = true ∨ '\r' ∉ element.2 := by
    rw [hread, storedPage, Except.ok.injEq, List.map_map, List.map_inj_left,
      List.forall_mem_append]
    simp only [Function.comp_apply, decodeElement_eq_iff, List.mem_singleton, forall_eq,
      List.not_mem_nil, not_false_eq_true, or_true, and_true]
  have hlisting : ∀ text, (listingText encodingUrl text).all isXml10Character = true ∧
      (encodingUrl = true ∨ '\r' ∉ text) ↔ encodingUrl = true ∨ Carried text := by
    intro text
    cases encodingUrl with
    | true => simp [listingText, (carried_s3UrlEncode text).1]
    | false => simp [listingText, Carried]
  have hforall : parts.Formatted → ((∀ element ∈ parts.stored,
      decodes encodingUrl element.1 = true ∨ '\r' ∉ element.2) ↔
        (∀ text ∈ parts.clients, '\r' ∉ text) ∧
          ∀ text ∈ parts.listings, encodingUrl = true ∨ '\r' ∉ text) := by
    intro hformatted
    refine @Parts.forall_stored_iff ε parts
      (fun name text => decodes encodingUrl name = true ∨ '\r' ∉ text) _ hmarked hformatted ?_ ?_
    · intro name text hname
      simp [decodes_plain encodingUrl hname]
    · intro name text hname
      rw [decodes_listing encodingUrl hname]
  have hall : (∀ text ∈ parts.listings, encodingUrl = true ∨ Carried text) ↔
      (encodingUrl = true ∨ ∀ text ∈ parts.listings, Carried text) := by
    cases encodingUrl <;> simp
  rw [← hall]
  constructor
  · rintro ⟨page, hpage, hsurvives⟩
    obtain ⟨hformatted, hclients, hlistings, rfl⟩ := renderPage_eq_ok_iff.1 hpage
    obtain ⟨hclients', hlistings'⟩ := (hforall hformatted).1 (hsame.1 hsurvives)
    exact ⟨hformatted, fun text htext => ⟨hclients text htext, hclients' text htext⟩,
      fun text htext => (hlisting text).1 ⟨hlistings text htext, hlistings' text htext⟩⟩
  · rintro ⟨hformatted, hclients, hlistings⟩
    refine ⟨_, renderPage_eq_ok_iff.2 ⟨hformatted, fun text htext => (hclients text htext).1,
      fun text htext => ((hlisting text).2 (hlistings text htext)).1, rfl⟩, ?_⟩
    exact hsame.2 ((hforall hformatted).2 ⟨fun text htext => (hclients text htext).2,
      fun text htext => ((hlisting text).2 (hlistings text htext)).2⟩)

namespace Parts

variable {ε : Type}

theorem formatted_append (first second : Parts ε) :
    (first.append second).Formatted ↔ first.Formatted ∧ second.Formatted := by
  induction first with
  | nil => simp [append, Formatted]
  | plain name value next ih => simp [append, Formatted, ih, and_assoc]
  | client name value next ih => simp [append, Formatted, ih]
  | listing name value next ih => simp [append, Formatted, ih]
  | group name inner next _ ih => simp [append, Formatted, ih, and_assoc]

theorem clients_append (first second : Parts ε) :
    (first.append second).clients = first.clients ++ second.clients := by
  induction first with
  | nil => rfl
  | plain name value next ih => simp [append, clients, ih]
  | client name value next ih => simp [append, clients, ih]
  | listing name value next ih => simp [append, clients, ih]
  | group name inner next _ ih => simp [append, clients, ih]

theorem listings_append (first second : Parts ε) :
    (first.append second).listings = first.listings ++ second.listings := by
  induction first with
  | nil => rfl
  | plain name value next ih => simp [append, listings, ih]
  | client name value next ih => simp [append, listings, ih]
  | listing name value next ih => simp [append, listings, ih]
  | group name inner next _ ih => simp [append, listings, ih]

theorem marked_append (first second : Parts ε) :
    (first.append second).marked = (first.marked && second.marked) := by
  induction first with
  | nil => rfl
  | plain name value next ih => simp [append, marked, ih, Bool.and_assoc]
  | client name value next ih => simp [append, marked, ih, Bool.and_assoc]
  | listing name value next ih => simp [append, marked, ih, Bool.and_assoc]
  | group name inner next _ ih => simp [append, marked, ih, Bool.and_assoc]

theorem formatted_concat (list : List (Parts ε)) :
    (concat list).Formatted ↔ ∀ parts ∈ list, parts.Formatted := by
  induction list with
  | nil => simp [concat, Formatted]
  | cons parts list ih =>
      rw [List.forall_mem_cons, ← ih]
      exact formatted_append parts (concat list)

theorem clients_concat (list : List (Parts ε)) :
    (concat list).clients = list.flatMap clients := by
  induction list with
  | nil => rfl
  | cons parts list ih =>
      rw [List.flatMap_cons, ← ih]
      exact clients_append parts (concat list)

theorem listings_concat (list : List (Parts ε)) :
    (concat list).listings = list.flatMap listings := by
  induction list with
  | nil => rfl
  | cons parts list ih =>
      rw [List.flatMap_cons, ← ih]
      exact listings_append parts (concat list)

theorem marked_concat (list : List (Parts ε)) :
    (concat list).marked = true ↔ ∀ parts ∈ list, parts.marked = true := by
  induction list with
  | nil => simp [concat, marked]
  | cons parts list ih =>
      rw [List.forall_mem_cons, ← ih, ← Bool.and_eq_true]
      exact Bool.eq_iff_iff.1 (marked_append parts (concat list))

/-- A list of like elements that hold one key each. -/
theorem listings_concat_map {α : Type} (list : List α) (part : α → Parts ε) (key : α → Text)
    (h : ∀ item, (part item).listings = [key item]) :
    (concat (list.map part)).listings = list.map key := by
  rw [listings_concat, List.flatMap_map, List.map_eq_flatMap]
  simp only [h]

theorem clients_concat_map {α : Type} (list : List α) (part : α → Parts ε)
    (h : ∀ item, (part item).clients = []) : (concat (list.map part)).clients = [] := by
  rw [clients_concat, List.flatMap_map]
  simp [h]

theorem marked_optionally {α : Type} (value : Option α) (part : α → Parts ε)
    (h : ∀ item, (part item).marked = true) : (optionally value part).marked = true := by
  cases value with
  | none => rfl
  | some item => exact h item

theorem listings_optionally {α : Type} (value : Option α) (part : α → Parts ε) :
    (optionally value part).listings = value.toList.flatMap fun item => (part item).listings := by
  cases value with
  | none => rfl
  | some item => exact (List.append_nil _).symm

theorem clients_optionally {α : Type} (value : Option α) (part : α → Parts ε) :
    (optionally value part).clients = value.toList.flatMap fun item => (part item).clients := by
  cases value with
  | none => rfl
  | some item => exact (List.append_nil _).symm

theorem listings_commonPrefixesParts (commonPrefixes : List Text) :
    (commonPrefixesParts commonPrefixes : Parts ε).listings = commonPrefixes := by
  rw [commonPrefixesParts, listings_concat_map commonPrefixes _ id fun _ => rfl, List.map_id]

theorem clients_commonPrefixesParts (commonPrefixes : List Text) :
    (commonPrefixesParts commonPrefixes : Parts ε).clients = [] :=
  clients_concat_map commonPrefixes _ fun _ => rfl

theorem listings_encodingTypeParts (encodingUrl : Bool) :
    (encodingTypeParts encodingUrl : Parts ε).listings = [] := by
  cases encodingUrl <;> rfl

theorem clients_encodingTypeParts (encodingUrl : Bool) :
    (encodingTypeParts encodingUrl : Parts ε).clients = [] := by
  cases encodingUrl <;> rfl

theorem formatted_optionally {α : Type} (value : Option α) {part : α → Parts ε}
    (h : ∀ item, (part item).Formatted) : (optionally value part).Formatted := by
  cases value with
  | none => trivial
  | some item => exact h item

theorem formatted_concat_map {α : Type} {list : List α} {part : α → Parts ε} {P : α → Prop}
    (h : ∀ item, (part item).Formatted ↔ P item) :
    (concat (list.map part)).Formatted ↔ ∀ item ∈ list, P item := by
  rw [formatted_concat, List.forall_mem_map]
  simp only [h]

theorem formatted_commonPrefixesParts (commonPrefixes : List Text) :
    (commonPrefixesParts commonPrefixes : Parts ε).Formatted :=
  (formatted_concat_map fun _ => Iff.rfl).2 fun _ _ => ⟨trivial, trivial⟩

theorem formatted_encodingTypeParts (encodingUrl : Bool) :
    (encodingTypeParts encodingUrl : Parts ε).Formatted := by
  cases encodingUrl with
  | true => exact ⟨rfl, trivial⟩
  | false => trivial

theorem marked_commonPrefixesParts (commonPrefixes : List Text) :
    (commonPrefixesParts commonPrefixes : Parts ε).marked = true := by
  rw [commonPrefixesParts, marked_concat]
  intro parts hparts
  obtain ⟨pre, _, rfl⟩ := List.mem_map.1 hparts
  rfl

theorem marked_encodingTypeParts (encodingUrl : Bool) :
    (encodingTypeParts encodingUrl : Parts ε).marked = true := by
  cases encodingUrl <;> rfl

end Parts

theorem isOk_formatted {ε : Type} (formatRfc3339 : FormatRfc3339) (error : ε)
    (time : Core.OffsetDateTime) :
    (formatted formatRfc3339 error time).isOk = true ↔ (formatRfc3339 time).isSome = true := by
  rw [formatted]
  cases formatRfc3339 time <;> simp [Except.isOk, Except.toBool]

section Pages

variable (formatRfc3339 : FormatRfc3339)

theorem isOk_ok {ε α : Type} (value : α) : (Except.ok value : Except ε α).isOk = true := rfl

namespace ListObjectVersionsResult

variable (result : ListObjectVersionsResult)

/-- The keys, prefixes and markers of a page. -/
def keys : List Text :=
  [result.pre, result.keyMarker.getD []] ++ result.nextKeyMarker.toList ++
    result.delimiter.toList ++ result.items.map ListedObjectVersion.key ++ result.commonPrefixes

theorem marked_parts : (result.parts formatRfc3339).marked = true := by
  have hitems : (Parts.concat (result.items.map (result.versionParts formatRfc3339))).marked =
      true := by
    rw [Parts.marked_concat]
    intro parts hparts
    obtain ⟨⟨_, _, _, _, kind⟩, _, rfl⟩ := List.mem_map.1 hparts
    cases kind <;> rfl
  rw [parts, Parts.marked_concat]
  simp only [List.forall_mem_cons, List.not_mem_nil, false_implies, implies_true, and_true]
  exact ⟨rfl, rfl, rfl, rfl, Parts.marked_optionally _ _ fun _ => rfl,
    Parts.marked_optionally _ _ fun _ => rfl, Parts.marked_optionally _ _ fun _ => rfl,
    Parts.marked_encodingTypeParts _, rfl, rfl, hitems, Parts.marked_commonPrefixesParts _⟩

theorem listings_parts : (result.parts formatRfc3339).listings = result.keys := by
  have hitems : ∀ item : ListedObjectVersion,
      (result.versionParts formatRfc3339 item).listings = [item.key] := by
    rintro ⟨_, _, _, _, kind⟩
    cases kind <;> rfl
  rw [parts, Parts.listings_concat]
  simp only [List.flatMap_cons, List.flatMap_nil, Parts.listings,
    Parts.listings_concat_map _ _ _ hitems, Parts.listings_optionally,
    Parts.listings_encodingTypeParts, Parts.listings_commonPrefixesParts, keys]
  simp

theorem clients_parts :
    (result.parts formatRfc3339).clients = [result.versionIdMarker.getD []] := by
  have hitems : ∀ item : ListedObjectVersion,
      (result.versionParts formatRfc3339 item).clients = [] := by
    rintro ⟨_, _, _, _, kind⟩
    cases kind <;> rfl
  rw [parts, Parts.clients_concat]
  simp only [List.flatMap_cons, List.flatMap_nil, Parts.clients,
    Parts.clients_concat_map _ _ hitems, Parts.clients_optionally,
    Parts.clients_encodingTypeParts, Parts.clients_commonPrefixesParts]
  simp

theorem formatted_parts : (result.parts formatRfc3339).Formatted ↔
    ∀ item ∈ result.items, (formatRfc3339 item.lastModified).isSome = true := by
  have hitem : ∀ item : ListedObjectVersion, (result.versionParts formatRfc3339 item).Formatted ↔
      (formatRfc3339 item.lastModified).isSome = true := by
    rintro ⟨_, _, _, _, kind⟩
    cases kind <;> simp [versionParts, kindParts, ownerParts, Parts.append, Parts.Formatted,
      isOk_formatted, isOk_ok]
  rw [parts, Parts.formatted_concat, ← Parts.formatted_concat_map hitem]
  simp only [List.forall_mem_cons, List.not_mem_nil, false_implies, implies_true, and_true]
  constructor
  · rintro ⟨-, -, -, -, -, -, -, -, -, -, hitems, -⟩
    exact hitems
  · intro hitems
    exact ⟨⟨rfl, trivial⟩, trivial, trivial, trivial,
      Parts.formatted_optionally _ fun _ => trivial,
      Parts.formatted_optionally _ fun _ => ⟨rfl, trivial⟩,
      Parts.formatted_optionally _ fun _ => trivial, Parts.formatted_encodingTypeParts _,
      ⟨rfl, trivial⟩, ⟨rfl, trivial⟩, hitems, Parts.formatted_commonPrefixesParts _⟩

/-- The page as a client is to read it. -/
def stored : List (List UInt8 × Option Text) :=
  storedPage (elementName "ListVersionsResult") (result.parts formatRfc3339)

end ListObjectVersionsResult

namespace ListMultipartUploadsResult

variable (result : ListMultipartUploadsResult)

/-- The keys, prefixes and markers of a page. -/
def keys : List Text :=
  [result.keyMarker.getD []] ++ result.nextKeyMarker.toList ++ result.delimiter.toList ++
    [result.pre] ++ result.items.map ListedMultipartUpload.key ++ result.commonPrefixes

theorem marked_parts : (result.parts formatRfc3339).marked = true := by
  have hitems : (Parts.concat (result.items.map (result.uploadParts formatRfc3339))).marked =
      true := by
    rw [Parts.marked_concat]
    intro parts hparts
    obtain ⟨_, _, rfl⟩ := List.mem_map.1 hparts
    rfl
  rw [parts, Parts.marked_concat]
  simp only [List.forall_mem_cons, List.not_mem_nil, false_implies, implies_true, and_true]
  exact ⟨rfl, rfl, rfl, Parts.marked_optionally _ _ fun _ => rfl,
    Parts.marked_optionally _ _ fun _ => rfl, Parts.marked_optionally _ _ fun _ => rfl, rfl,
    Parts.marked_encodingTypeParts _, rfl, rfl, hitems, Parts.marked_commonPrefixesParts _⟩

theorem listings_parts : (result.parts formatRfc3339).listings = result.keys := by
  have hitems : ∀ item, (result.uploadParts formatRfc3339 item).listings = [item.key] :=
    fun _ => rfl
  rw [parts, Parts.listings_concat]
  simp only [List.flatMap_cons, List.flatMap_nil, Parts.listings,
    Parts.listings_concat_map _ _ _ hitems, Parts.listings_optionally,
    Parts.listings_encodingTypeParts, Parts.listings_commonPrefixesParts, keys]
  simp

theorem clients_parts :
    (result.parts formatRfc3339).clients = [result.uploadIdMarker.getD []] := by
  have hitems : ∀ item, (result.uploadParts formatRfc3339 item).clients = [] := fun _ => rfl
  rw [parts, Parts.clients_concat]
  simp only [List.flatMap_cons, List.flatMap_nil, Parts.clients,
    Parts.clients_concat_map _ _ hitems, Parts.clients_optionally,
    Parts.clients_encodingTypeParts, Parts.clients_commonPrefixesParts]
  simp

theorem formatted_parts : (result.parts formatRfc3339).Formatted ↔
    ∀ item ∈ result.items, (formatRfc3339 item.initiatedAt).isSome = true := by
  have hitem : ∀ item : ListedMultipartUpload, (result.uploadParts formatRfc3339 item).Formatted ↔
      (formatRfc3339 item.initiatedAt).isSome = true := by
    intro item
    simp [uploadParts, ownerParts, Parts.append, Parts.Formatted, isOk_formatted, isOk_ok]
  rw [parts, Parts.formatted_concat, ← Parts.formatted_concat_map hitem]
  simp only [List.forall_mem_cons, List.not_mem_nil, false_implies, implies_true, and_true]
  constructor
  · rintro ⟨-, -, -, -, -, -, -, -, -, -, hitems, -⟩
    exact hitems
  · intro hitems
    exact ⟨⟨rfl, trivial⟩, trivial, trivial, Parts.formatted_optionally _ fun _ => trivial,
      Parts.formatted_optionally _ fun _ => ⟨rfl, trivial⟩,
      Parts.formatted_optionally _ fun _ => trivial, trivial,
      Parts.formatted_encodingTypeParts _, ⟨rfl, trivial⟩, ⟨rfl, trivial⟩, hitems,
      Parts.formatted_commonPrefixesParts _⟩

def stored : List (List UInt8 × Option Text) :=
  storedPage (elementName "ListMultipartUploadsResult") (result.parts formatRfc3339)

end ListMultipartUploadsResult

namespace ListObjectsV2Result

variable (result : ListObjectsV2Result)

/-- The keys and prefixes of a page; there are none on a page of no keys. -/
def listed : List Text :=
  if result.query.maxKeys = 0 then []
  else result.items.map ListObject.key ++ result.commonPrefixes

def keys : List Text :=
  [result.query.pre] ++ result.query.delimiter.toList ++ result.listed ++
    result.query.startAfter.toList

theorem marked_parts (nextToken : Option Text) :
    (result.parts formatRfc3339 nextToken).marked = true := by
  have hitems : (Parts.concat (result.items.map (objectParts formatRfc3339))).marked = true := by
    rw [Parts.marked_concat]
    intro parts hparts
    obtain ⟨_, _, rfl⟩ := List.mem_map.1 hparts
    rfl
  have hnone : (if result.query.maxKeys = 0 then .nil
      else Parts.concat (result.items.map (objectParts formatRfc3339))).marked = true := by
    split
    · rfl
    · exact hitems
  have hprefixes : (if result.query.maxKeys = 0 then .nil
      else commonPrefixesParts result.commonPrefixes : Parts S3ListError).marked = true := by
    split
    · rfl
    · exact Parts.marked_commonPrefixesParts _
  rw [parts, Parts.marked_concat]
  simp only [List.forall_mem_cons, List.not_mem_nil, false_implies, implies_true, and_true]
  exact ⟨rfl, rfl, rfl, rfl, Parts.marked_optionally _ _ fun _ => rfl,
    Parts.marked_encodingTypeParts _, rfl, hnone, hprefixes,
    Parts.marked_optionally _ _ fun _ => rfl, Parts.marked_optionally _ _ fun _ => rfl,
    Parts.marked_optionally _ _ fun _ => rfl⟩

theorem listings_parts (nextToken : Option Text) :
    (result.parts formatRfc3339 nextToken).listings = result.keys := by
  have hitems : ∀ item, (objectParts formatRfc3339 item).listings = [item.key] := fun _ => rfl
  rw [parts, Parts.listings_concat, keys, listed]
  by_cases hzero : result.query.maxKeys = 0
  · simp [hzero, Parts.listings, Parts.listings_optionally, Parts.listings_encodingTypeParts,
      List.flatMap_eq_nil_iff.2]
  · simp [hzero, Parts.listings, Parts.listings_optionally, Parts.listings_encodingTypeParts,
      Parts.listings_concat_map _ _ _ hitems, Parts.listings_commonPrefixesParts,
      List.flatMap_eq_nil_iff.2]

theorem clients_parts (nextToken : Option Text) :
    (result.parts formatRfc3339 nextToken).clients =
      result.query.continuationToken.toList ++ nextToken.toList := by
  have hitems : ∀ item, (objectParts formatRfc3339 item).clients = [] := fun _ => rfl
  rw [parts, Parts.clients_concat]
  by_cases hzero : result.query.maxKeys = 0
  · simp [hzero, Parts.clients, Parts.clients_optionally, Parts.clients_encodingTypeParts,
      List.flatMap_eq_nil_iff.2]
  · simp [hzero, Parts.clients, Parts.clients_optionally, Parts.clients_encodingTypeParts,
      Parts.clients_concat_map _ _ hitems, Parts.clients_commonPrefixesParts,
      List.flatMap_eq_nil_iff.2]

theorem formatted_parts (nextToken : Option Text) :
    (result.parts formatRfc3339 nextToken).Formatted ↔
      (result.query.maxKeys ≠ 0 →
        ∀ item ∈ result.items, (formatRfc3339 item.lastModified).isSome = true) := by
  have hitem : ∀ item : ListObject, (objectParts formatRfc3339 item).Formatted ↔
      (formatRfc3339 item.lastModified).isSome = true := by
    intro item
    simp [objectParts, Parts.Formatted, isOk_formatted, isOk_ok]
  have hnone : (if result.query.maxKeys = 0 then .nil
      else Parts.concat (result.items.map (objectParts formatRfc3339))).Formatted ↔
      (result.query.maxKeys ≠ 0 →
        ∀ item ∈ result.items, (formatRfc3339 item.lastModified).isSome = true) := by
    split
    · rename_i hzero
      simp [hzero, Parts.Formatted]
    · rename_i hnonzero
      rw [Parts.formatted_concat_map hitem]
      exact ⟨fun hitems _ => hitems, fun hitems => hitems hnonzero⟩
  have hprefixes : (if result.query.maxKeys = 0 then .nil
      else commonPrefixesParts result.commonPrefixes : Parts S3ListError).Formatted := by
    split
    · trivial
    · exact Parts.formatted_commonPrefixesParts _
  rw [parts, Parts.formatted_concat, ← hnone]
  simp only [List.forall_mem_cons, List.not_mem_nil, false_implies, implies_true, and_true]
  constructor
  · rintro ⟨-, -, -, -, -, -, -, hitems, -⟩
    exact hitems
  · intro hitems
    exact ⟨⟨rfl, trivial⟩, trivial, ⟨rfl, trivial⟩, ⟨rfl, trivial⟩,
      Parts.formatted_optionally _ fun _ => trivial, Parts.formatted_encodingTypeParts _,
      ⟨rfl, trivial⟩, hitems, hprefixes, Parts.formatted_optionally _ fun _ => trivial,
      Parts.formatted_optionally _ fun _ => trivial,
      Parts.formatted_optionally _ fun _ => trivial⟩

def stored (nextToken : Option Text) : List (List UInt8 × Option Text) :=
  storedPage (elementName "ListBucketResult") (result.parts formatRfc3339 nextToken)

/-- A token is Base64. -/
theorem carried_nextToken [Base64Engine] {cipher : Aead.Cipher} {nonce : List UInt8} {token : Text}
    (h : result.nextToken cipher nonce = .ok (some token)) : Carried token := by
  unfold nextToken at h
  split at h
  · cases h
  · split at h
    · cases h
    · rename_i cursor _
      unfold ContinuationTokenCodec.encode at h
      cases hentry : ContinuationTokenCodec.sealCursor cipher nonce result.bucket.1 result.query
          cursor with
      | error error =>
          rw [hentry] at h
          cases h
      | ok entry =>
          rw [hentry] at h
          cases h
          exact carried_base64 _

theorem exists_nextToken_iff [Base64Engine] {cipher : Aead.Cipher} {nonce : List UInt8} :
    (∃ token, result.nextToken cipher nonce = .ok token) ↔
      (result.query.maxKeys ≠ 0 → ∀ cursor ∈ result.nextCursor,
        ContinuationTokenCodec.Sealable cipher nonce result.bucket.1 result.query cursor) := by
  rw [nextToken]
  by_cases hzero : result.query.maxKeys = 0
  · simp [hzero]
  · cases result.nextCursor with
    | none => simp [hzero]
    | some cursor =>
        have hsealable := @ContinuationTokenCodec.exists_encode_iff cipher _ nonce result.bucket.1
          result.query cursor
        simp only [if_neg hzero, Option.mem_some_iff, forall_eq', ← hsealable]
        cases ContinuationTokenCodec.encode cipher nonce result.bucket.1 result.query cursor with
        | error error => simp [hzero, Except.map]
        | ok token => simp [Except.map]

end ListObjectsV2Result

/-- What a page needs apart from its keys: the entries asked for at most, a cursor that can be
sealed, times that can be written, and a token of the client that XML carries. -/
structure ListObjectsV2Result.Sendable (cipher : Aead.Cipher) (nonce : List UInt8)
    (result : ListObjectsV2Result) : Prop where
  count : result.keyCount ≤ result.query.maxKeys
  cursor : result.query.maxKeys ≠ 0 →
    ∀ cursor ∈ result.nextCursor,
      ContinuationTokenCodec.Sealable cipher nonce result.bucket.1 result.query cursor
  times : result.query.maxKeys ≠ 0 →
    ∀ item ∈ result.items, (formatRfc3339 item.lastModified).isSome = true
  marker : ∀ token ∈ result.query.continuationToken, Carried token

structure ListObjectVersionsResult.Sendable (result : ListObjectVersionsResult) : Prop where
  times : ∀ item ∈ result.items, (formatRfc3339 item.lastModified).isSome = true
  marker : Carried (result.versionIdMarker.getD [])

structure ListMultipartUploadsResult.Sendable (result : ListMultipartUploadsResult) : Prop where
  times : ∀ item ∈ result.items, (formatRfc3339 item.initiatedAt).isSome = true
  marker : Carried (result.uploadIdMarker.getD [])

theorem listObjectsV2_survives_iff [Base64Engine] (reader : Xml.Reader) (cipher : Aead.Cipher)
    (nonce : List UInt8) (result : ListObjectsV2Result) :
    (∃ token page, result.nextToken cipher nonce = .ok token ∧
        result.toXml formatRfc3339 cipher nonce = .ok page ∧
        readPage reader result.query.encodingUrl page = .ok (result.stored formatRfc3339 token)) ↔
      result.Sendable formatRfc3339 cipher nonce ∧
        (result.query.encodingUrl = true ∨ ∀ key ∈ result.keys, Carried key) := by
  have hpage (token : Option Text) := @page_survives_iff _ S3ListError.invalidXmlCharacter reader
    (elementName "ListBucketResult") result.query.encodingUrl _
    (result.marked_parts formatRfc3339 token)
  simp only [result.formatted_parts, result.clients_parts, result.listings_parts,
    List.forall_mem_append, Option.mem_toList] at hpage
  have htoXml (token : Option Text) (htoken : result.nextToken cipher nonce = .ok token)
      (page : Text) : result.toXml formatRfc3339 cipher nonce = .ok page ↔
        result.keyCount ≤ result.query.maxKeys ∧
          renderPage .invalidXmlCharacter (elementName "ListBucketResult")
            result.query.encodingUrl (result.parts formatRfc3339 token) = .ok page := by
    rw [ListObjectsV2Result.toXml, andThen_eq_ok_iff, rejectIf_eq_ok_iff, htoken, ok_bind, not_lt]
  constructor
  · rintro ⟨token, page, htoken, hrender, hread⟩
    obtain ⟨hcount, hrender⟩ := (htoXml token htoken page).1 hrender
    obtain ⟨htimes, ⟨hmarker, _⟩, hkeys⟩ := (hpage token).1 ⟨page, hrender, hread⟩
    have hcursor := result.exists_nextToken_iff.1 ⟨token, htoken⟩
    exact ⟨⟨hcount, hcursor, htimes, hmarker⟩, hkeys⟩
  · rintro ⟨⟨hcount, hcursor, htimes, hmarker⟩, hkeys⟩
    obtain ⟨token, htoken⟩ := result.exists_nextToken_iff.2 hcursor
    have hcarried : ∀ text ∈ token, Carried text := by
      rintro text rfl
      exact result.carried_nextToken htoken
    obtain ⟨page, hrender, hread⟩ := (hpage token).2 ⟨htimes, ⟨hmarker, hcarried⟩, hkeys⟩
    exact ⟨token, page, htoken, (htoXml token htoken page).2 ⟨hcount, hrender⟩, hread⟩

theorem listObjectVersions_survives_iff (reader : Xml.Reader)
    (result : ListObjectVersionsResult) :
    (∃ page, listObjectVersionsResultXml formatRfc3339 result = .ok page ∧
        readPage reader result.encodingUrl page = .ok (result.stored formatRfc3339)) ↔
      result.Sendable formatRfc3339 ∧
        (result.encodingUrl = true ∨ ∀ key ∈ result.keys, Carried key) := by
  have hpage := @page_survives_iff _ S3XmlError.invalidXmlCharacter reader
    (elementName "ListVersionsResult") result.encodingUrl _ (result.marked_parts formatRfc3339)
  simp only [result.formatted_parts, result.clients_parts, result.listings_parts,
    List.mem_singleton, forall_eq] at hpage
  refine hpage.trans ⟨?_, ?_⟩
  · rintro ⟨htimes, hmarker, hkeys⟩
    exact ⟨⟨htimes, hmarker⟩, hkeys⟩
  · rintro ⟨⟨htimes, hmarker⟩, hkeys⟩
    exact ⟨htimes, hmarker, hkeys⟩

theorem listMultipartUploads_survives_iff (reader : Xml.Reader)
    (result : ListMultipartUploadsResult) :
    (∃ page, listMultipartUploadsResultXml formatRfc3339 result = .ok page ∧
        readPage reader result.encodingUrl page = .ok (result.stored formatRfc3339)) ↔
      result.Sendable formatRfc3339 ∧
        (result.encodingUrl = true ∨ ∀ key ∈ result.keys, Carried key) := by
  have hpage := @page_survives_iff _ S3XmlError.invalidXmlCharacter reader
    (elementName "ListMultipartUploadsResult") result.encodingUrl _
    (result.marked_parts formatRfc3339)
  simp only [result.formatted_parts, result.clients_parts, result.listings_parts,
    List.mem_singleton, forall_eq] at hpage
  refine hpage.trans ⟨?_, ?_⟩
  · rintro ⟨htimes, hmarker, hkeys⟩
    exact ⟨⟨htimes, hmarker⟩, hkeys⟩
  · rintro ⟨⟨htimes, hmarker⟩, hkeys⟩
    exact ⟨htimes, hmarker, hkeys⟩

end Pages

/-- A response of texts that are pushed as they are fails just when XML has no place for one. -/
theorem renderPage_ne_error_iff {ε : Type} {invalid : ε} {name : Xml.Name} {parts : Parts ε}
    (hformatted : parts.Formatted) (hlistings : parts.listings = []) :
    (∀ error, renderPage invalid name false parts ≠ .error error) ↔
      ∀ text ∈ parts.clients, text.all isXml10Character = true := by
  constructor
  · intro hne
    cases hrender : renderPage invalid name false parts with
    | error error => exact absurd hrender (hne error)
    | ok page => exact (renderPage_eq_ok_iff.1 hrender).2.1
  · intro hclients error herror
    have hok : renderPage invalid name false parts = .ok (pageDocument name false parts).write :=
      renderPage_eq_ok_iff.2 ⟨hformatted, hclients, by simp [hlistings], rfl⟩
    rw [hok] at herror
    cases herror

theorem s3CreateMultipartUpload_answered_iff (calls : CreateMultipartUploadCalls)
    (bucket : PlainText) (key : Text) (uploadId : PlainText) :
    (∀ error, s3CreateMultipartUpload calls bucket key uploadId ≠ .ok (.error error)) ↔
      ¬ calls.Commits key ∨ key.all isXml10Character = true := by
  have hrender : (∀ error, initiateMultipartUploadResultXml bucket key uploadId ≠ .error error) ↔
      ∀ text ∈ [key], text.all isXml10Character = true :=
    renderPage_ne_error_iff ⟨rfl, rfl, trivial⟩ rfl
  rw [s3CreateMultipartUpload, ← calls.run_eq_ok_iff]
  cases calls.run key with
  | error e => simp
  | ok created => simpa using hrender

theorem s3CompleteMultipartUpload_answered_iff (calls : CompleteMultipartUploadCalls)
    (location : Text) (bucket : PlainText) (key : Text) :
    (∀ error, s3CompleteMultipartUpload calls location bucket key ≠ .ok (.error error)) ↔
      (∀ etag, ¬ calls.Completes key etag) ∨
        location.all isXml10Character = true ∧ key.all isXml10Character = true := by
  simp only [← calls.run_eq_ok_iff]
  rw [s3CompleteMultipartUpload]
  cases calls.run key with
  | error e => simp
  | ok etag =>
      have hrender : (∀ error, completeMultipartUploadResultXml location bucket key
          (quotedEtag etag) ≠ .error error) ↔
            ∀ text ∈ [location, key], text.all isXml10Character = true :=
        renderPage_ne_error_iff ⟨rfl, rfl, trivial⟩ rfl
      simpa using hrender

/-- When listings are written and read back, and when a committed upload is answered: a key has to
be carried by XML, unless the listing is asked for with `encoding-type=url`. -/
theorem listed_and_reported_iff [Base64Engine] (formatRfc3339 : FormatRfc3339)
    (reader : Xml.Reader) :
    (∀ (cipher : Aead.Cipher) (nonce : List UInt8) (result : ListObjectsV2Result),
      (∃ token page, result.nextToken cipher nonce = .ok token ∧
        result.toXml formatRfc3339 cipher nonce = .ok page ∧
        readPage reader result.query.encodingUrl page = .ok (result.stored formatRfc3339 token)) ↔
      result.Sendable formatRfc3339 cipher nonce ∧
        (result.query.encodingUrl = true ∨ ∀ key ∈ result.keys, Carried key)) ∧
    (∀ result : ListObjectVersionsResult,
      (∃ page, listObjectVersionsResultXml formatRfc3339 result = .ok page ∧
        readPage reader result.encodingUrl page = .ok (result.stored formatRfc3339)) ↔
      result.Sendable formatRfc3339 ∧
        (result.encodingUrl = true ∨ ∀ key ∈ result.keys, Carried key)) ∧
    (∀ result : ListMultipartUploadsResult,
      (∃ page, listMultipartUploadsResultXml formatRfc3339 result = .ok page ∧
        readPage reader result.encodingUrl page = .ok (result.stored formatRfc3339)) ↔
      result.Sendable formatRfc3339 ∧
        (result.encodingUrl = true ∨ ∀ key ∈ result.keys, Carried key)) ∧
    (∀ (calls : CreateMultipartUploadCalls) (bucket : PlainText) (key : Text)
        (uploadId : PlainText),
      (∀ error, s3CreateMultipartUpload calls bucket key uploadId ≠ .ok (.error error)) ↔
      ¬ calls.Commits key ∨ key.all isXml10Character = true) ∧
    ∀ (calls : CompleteMultipartUploadCalls) (location : Text) (bucket : PlainText) (key : Text),
      (∀ error, s3CompleteMultipartUpload calls location bucket key ≠ .ok (.error error)) ↔
      (∀ etag, ¬ calls.Completes key etag) ∨
        location.all isXml10Character = true ∧ key.all isXml10Character = true :=
  ⟨listObjectsV2_survives_iff formatRfc3339 reader,
    listObjectVersions_survives_iff formatRfc3339 reader,
    listMultipartUploads_survives_iff formatRfc3339 reader,
    s3CreateMultipartUpload_answered_iff, s3CompleteMultipartUpload_answered_iff⟩

/-- A version of an object whose key has a control character. -/
def controlKeyPage : ListObjectVersionsResult where
  bucket := ⟨"photos".toList, by decide⟩
  ownerId := ⟨"1".toList, by decide⟩
  ownerDisplayName := ⟨"PrismArk Account".toList, by decide⟩
  pre := []
  delimiter := none
  keyMarker := none
  versionIdMarker := none
  nextKeyMarker := none
  nextVersionIdMarker := none
  maxKeys := 1000
  encodingUrl := false
  items := [⟨"a\x01b".toList, ⟨"null".toList, by decide⟩, true, ⟨0, 0, by decide⟩, .deleteMarker⟩]
  commonPrefixes := []

/-- A request without tags or an ACL, by the owner of the bucket. -/
def grantedCalls : CreateMultipartUploadCalls where
  cannedAcl := .ok none
  contentType := .ok "application/octet-stream".toList
  userMetadata := .ok []
  objectTags := .ok none
  authorize _ := .ok ⟨1, 2⟩
  create _ _ _ _ := .ok ()

/-- The key is accepted, the upload is created, and neither the listing nor the answer can be
written. -/
theorem controlKey_not_reported :
    validS3ObjectKey "a\x01b".toList = true ∧
      (∀ formatRfc3339 page, listObjectVersionsResultXml formatRfc3339 controlKeyPage ≠ .ok page) ∧
      grantedCalls.run "a\x01b".toList = .ok () ∧
      s3CreateMultipartUpload grantedCalls ⟨"photos".toList, by decide⟩ "a\x01b".toList
          ⟨"mh_mpu_1".toList, by decide⟩ =
        .ok (.error .invalidXmlCharacter) := by
  refine ⟨by decide, ?_, by decide +kernel, by decide +kernel⟩
  intro formatRfc3339 page hpage
  have hlistings := (renderPage_eq_ok_iff.1 hpage).2.2.1
  rw [controlKeyPage.listings_parts] at hlistings
  have hkey : "a\x01b".toList ∈ controlKeyPage.keys := by decide
  exact absurd (hlistings _ hkey) (by decide)

end MediaHub.Http
