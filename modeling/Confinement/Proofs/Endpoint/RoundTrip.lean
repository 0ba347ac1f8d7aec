import Confinement.Proofs.Endpoint.Hosts
import Confinement.Proofs.Endpoint.Paths

/-!
# Endpoints and their text

The text of a TCP address is read as the address again, however the address was spelled.  The path
of a socket file is written as it is, although its percent encoding was undone when it was read, so
its text is read as the same path only if the path is `Verbatim` and has nothing to undo
(`parse_text_iff`).  A percent sign that was encoded breaks the round trip (`escaped_percent_sign`).
-/

namespace Confinement

open Reference

namespace Endpoint

/-! ## Socket files -/

theorem ofUnixPath_ok
    {text path : String} {endpoint : Endpoint}
    (read : ofUnixPath text path = .ok endpoint) :
    ∃ decoded, endpoint = .unix decoded ∧ decoded ≠ "" ∧
      Percent.decode (Text.bytes path) = Text.bytes decoded := by
  rw [ofUnixPath] at read
  split at read
  · cases read
  · cases read
  · rename_i decoded some same
    exact ⟨decoded, (Except.ok.inj read).symm, some, (Text.ofBytes?_eq_some_iff.1 same).symm⟩

theorem ofUnixPath_of_literal
    {path : String}
    (text : String) (literal : Percent.Literal (Text.bytes path))
    (some : path ≠ "") :
    ofUnixPath text path = .ok (.unix path) := by
  rw [ofUnixPath, literal.decode_eq, Text.ofBytes?_bytes]
  split
  · cases ‹_›
  · rename_i empty
    exact absurd (Option.some.inj empty) some
  · rename_i same
    rw [Option.some.inj same]

theorem text_unix (path : String) :
    (Endpoint.unix path).text = String.ofList (['u', 'n', 'i', 'x'] ++ ':' :: path.toList) := by
  apply String.toList_injective
  rw [String.toList_ofList, text, String.toList_append]
  rfl

/-- The path of a socket file is read from its text exactly if it stands for itself. -/
theorem parse_unix_iff
    {path : String}
    (some : path ≠ "") :
    parse (Endpoint.unix path).text = .ok (.unix path) ↔
      Verbatim path.toList ∧ Percent.Literal (Text.bytes path) := by
  have own : OwnScheme ['u', 'n', 'i', 'x'] :=
    ⟨by decide, List.all_eq_true.1 (by decide), by decide⟩
  constructor
  · intro read
    rw [parse] at read
    split at read
    · cases read
    · rename_i reference found
      rw [text_unix] at found
      obtain ⟨scheme, part, verbatim⟩ := own.path_of_parse found
      rw [if_pos (scheme.trans (by decide))] at read
      obtain ⟨_, ⟨⟩, _, decoded⟩ := ofUnixPath_ok read
      -- Neither reading nor decoding adds a byte, so both have left the path alone.
      have inside : (Text.bytes reference.path).Sublist (Text.bytes path) := by
        rw [Utf8.bytes_eq_flatMap, Utf8.bytes_eq_flatMap]
        exact part.flatMap _
      have bytes : Text.bytes reference.path = Text.bytes path := by
        apply inside.eq_of_length_le
        rw [← decoded]
        exact Percent.length_decode_le _
      have same : reference.path = path := by
        have texts := congrArg Text.ofBytes? bytes
        rw [Text.ofBytes?_bytes, Text.ofBytes?_bytes] at texts
        exact Option.some.inj texts
      rw [bytes] at decoded
      exact ⟨verbatim (congrArg String.toList same), Percent.literal_of_decode_eq decoded⟩
  · rintro ⟨verbatim, literal⟩
    rw [parse, text_unix, own.parse_of_verbatim verbatim]
    dsimp only
    rw [if_pos (by decide), String.ofList_toList]
    exact ofUnixPath_of_literal _ literal some

/-! ## Addresses -/

theorem splitLastColon_append
    {back : List Char}
    (none : ':' ∉ back)
    (front : List Char) :
    splitLastColon (front ++ ':' :: back) = some (front, back) := by
  have other : ∀ c ∈ back.reverse, decide (c ≠ ':') = true := by
    intro c member
    rw [decide_eq_true_iff]
    rintro rfl
    exact none (List.mem_reverse.1 member)
  have reversed : (front ++ ':' :: back).reverse = back.reverse ++ ':' :: front.reverse := by simp
  rw [splitLastColon, if_pos (by simp)]
  dsimp only
  rw [reversed, List.dropWhile_append_of_pos other, List.takeWhile_append_of_pos other,
    List.dropWhile_cons_of_neg (by decide), List.takeWhile_cons_of_neg (by decide)]
  simp

/-- What stands before the last colon is the beginning of the text. -/
theorem prefix_of_splitLastColon
    {chars front back : List Char}
    (split : splitLastColon chars = some (front, back)) :
    front <+: chars := by
  rw [splitLastColon] at split
  split at split
  · cases split
    rw [← List.reverse_suffix, List.reverse_reverse]
    exact (List.tail_suffix _).trans (List.dropWhile_suffix _)
  · cases split

theorem text_tcp (host : String) (port : Nat) :
    (Endpoint.tcp host port).text =
      String.ofList (['t', 'c', 'p'] ++ ':' :: (host.toList ++ ':' :: Nat.toDigits 10 port)) := by
  apply String.toList_injective
  rw [String.toList_ofList, text, Nat.toString_eq_ofList_toDigits]
  simp only [String.toList_append, String.toList_ofList, List.append_assoc]
  rfl

theorem ofTcpPath_ok
    {text path : String} {endpoint : Endpoint}
    (read : ofTcpPath text path = .ok endpoint) :
    ∃ host port number, splitLastColon path.toList = some (host, port) ∧ host ≠ [] ∧
      number < 65536 ∧ endpoint = .tcp (Percent.encodeControls (String.ofList host)) number := by
  rw [ofTcpPath] at read
  split at read
  · cases read
  · cases read
  · rename_i host port some split
    split at read
    · cases read
    · rename_i number found
      exact ⟨host, port, number, split, some, Text.unsigned?_lt found,
        (Except.ok.inj read).symm⟩

theorem ofTcpPath_of_split
    {text path : String} {host digits : List Char} {port : Nat}
    (split : splitLastColon path.toList = some (host, digits))
    (some : host ≠ [])
    (found : Text.unsigned? 65536 (String.ofList digits) = .some port) :
    ofTcpPath text path = .ok (.tcp (Percent.encodeControls (String.ofList host)) port) := by
  obtain ⟨first, rest, rfl⟩ := List.exists_cons_of_ne_nil some
  rw [ofTcpPath, split]
  dsimp only
  rw [found]

theorem head?_address_ne_slash
    {host : List Char}
    (settled : Settled host)
    (back : List Char) :
    (host ++ back).head? ≠ some '/' := by
  obtain ⟨first, rest, same⟩ := List.exists_cons_of_ne_nil settled.some
  have begins := settled.relative
  rw [same] at begins ⊢
  exact begins

/-- What follows the scheme of the text of an address stands for itself. -/
theorem verbatim_address
    {host : List Char}
    (settled : Settled host)
    (port : Nat) :
    Verbatim (host ++ ':' :: Nat.toDigits 10 port) := by
  have relative := head?_address_ne_slash settled (':' :: Nat.toDigits 10 port)
  have ordinary : ∀ c ∈ host ++ ':' :: Nat.toDigits 10 port,
      isBreak c = false ∧ endsPath c = false := by
    intro c member
    rcases List.mem_append.1 member with inner | outer
    · exact ⟨isBreak_of_isPrintable (settled.printable c inner), settled.whole c inner⟩
    · rcases List.mem_cons.1 outer with rfl | digit
      · decide
      · have number := Text.isDigit_of_mem_toDigits digit
        exact ⟨isBreak_eq_false_of_isEdge (isEdge_of_isDigit number), endsPath_of_isDigit number⟩
  refine ⟨⟨fun c member => (ordinary c member).2, ?_, fun slash => absurd slash relative⟩,
    fun c member => (ordinary c member).1, ?_⟩
  · rintro ⟨rest, same⟩
    rw [← same] at relative
    exact relative rfl
  · intro some
    have digits := Text.toDigits_ne_nil port
    rw [List.getLast_append_of_ne_nil some (List.cons_ne_nil _ _), List.getLast_cons digits]
    exact isEdge_of_isDigit (Text.isDigit_of_mem_toDigits (List.getLast_mem digits))

/-- The text of a settled address is read as the address. -/
theorem parse_tcp
    {host : String} {port : Nat}
    (settled : Settled host.toList)
    (small : port < 65536) :
    parse (Endpoint.tcp host port).text = .ok (.tcp host port) := by
  have own : OwnScheme ['t', 'c', 'p'] :=
    ⟨by decide, List.all_eq_true.1 (by decide), by decide⟩
  have none : ':' ∉ Nat.toDigits 10 port :=
    fun member => absurd (Text.isDigit_of_mem_toDigits member) (by decide)
  have relative := head?_address_ne_slash settled (':' :: Nat.toDigits 10 port)
  have split : splitLastColon (host.toList ++ ':' :: Nat.toDigits 10 port) =
      some (host.toList, Nat.toDigits 10 port) := splitLastColon_append none _
  rw [← String.toList_ofList (l := host.toList ++ ':' :: Nat.toDigits 10 port)] at split
  rw [parse, text_tcp, own.parse_of_verbatim (verbatim_address settled port)]
  dsimp only
  rw [if_neg (by decide), if_pos (by decide), if_pos (decide_eq_true relative),
    ofTcpPath_of_split split settled.some (Text.unsigned?_toDigits small), String.ofList_toList,
    Percent.encodeControls_eq_self settled.printable]

/-! ## The round trip -/

/-- What holds of an endpoint that was read. -/
def WasRead : Endpoint → Prop
  | .unix path => path ≠ ""
  | .tcp host port => Settled host.toList ∧ port < 65536

theorem wasRead_of_parse
    {text : String} {endpoint : Endpoint}
    (read : parse text = .ok endpoint) :
    endpoint.WasRead := by
  rw [parse] at read
  split at read
  · cases read
  · rename_i reference found
    split at read
    · obtain ⟨decoded, rfl, some, _⟩ := ofUnixPath_ok read
      exact some
    · split at read
      · rename_i other scheme
        have plain : SchemeClass.of reference.scheme = .plain := by
          rw [scheme]
          decide
        obtain ⟨form, hosts, ports⟩ := settled_of_parse found plain
        split at read
        · rename_i path
          obtain ⟨whole, relative⟩ := form path
          obtain ⟨host, port, number, split, some, small, rfl⟩ := ofTcpPath_ok read
          obtain ⟨rest, first⟩ := prefix_of_splitLastColon split
          refine ⟨settled_encodeControls some ?_ ?_, small⟩
          · intro c member
            apply whole c
            rw [← first]
            exact List.mem_append_left _ member
          · obtain ⟨c, others, rfl⟩ := List.exists_cons_of_ne_nil some
            rw [← first] at relative
            exact relative
        · split at read
          · cases read
          · cases read
          · rename_i located ported
            cases read
            exact ⟨hosts _ located, ports _ ported⟩
      · cases read

/--
An endpoint that was read is read from its text again, unless it is a socket file whose path does
not stand for itself: reading it as it is would drop, cut off or decode part of it.
-/
theorem parse_text_iff
    {text : String} {endpoint : Endpoint}
    (read : parse text = .ok endpoint) :
    parse endpoint.text = .ok endpoint ↔
      ∀ path, endpoint = .unix path →
        Verbatim path.toList ∧ Percent.Literal (Text.bytes path) := by
  have was := wasRead_of_parse read
  cases endpoint with
  | tcp host port =>
      refine iff_of_true (parse_tcp was.1 was.2) ?_
      rintro path ⟨⟩
  | unix path =>
      rw [parse_unix_iff was]
      constructor
      · rintro fine other ⟨⟩
        exact fine
      · intro fine
        exact fine path rfl

/-- A path with an encoded blank, and an address with its parts in the places of a web address. -/
theorem parse_text_iff_with_blank :
    (parse "UNIX:/run/./my%20app\n" = .ok (.unix "/run/my app") ∧
      parse "unix:/run/my app" = .ok (.unix "/run/my app")) ∧
    parse "tcp://user@h%C3%A9:080/x?y" = .ok (.tcp "h%C3%A9" 80) ∧
      parse "tcp:h%C3%A9:80" = .ok (.tcp "h%C3%A9" 80) := by
  have blank : parse "UNIX:/run/./my%20app\n" = .ok (.unix "/run/my app") := by decide +kernel
  have address : parse "tcp://user@h%C3%A9:080/x?y" = .ok (.tcp "h%C3%A9" 80) := by decide +kernel
  refine ⟨⟨blank, ?_⟩, address, ?_⟩
  · apply (parse_text_iff blank).2
    rintro path ⟨⟩
    decide +kernel
  · apply (parse_text_iff address).2
    rintro path ⟨⟩

/-- An encoded percent sign is written plainly, and with what follows it is read as a code. -/
theorem escaped_percent_sign :
    ¬∀ text endpoint, parse text = .ok endpoint → parse endpoint.text = .ok endpoint := by
  intro always
  have read : parse "unix:/a%2525" = .ok (.unix "/a%25") := by decide +kernel
  have again : parse "unix:/a%25" = .ok (.unix "/a%") := by decide +kernel
  have text : (Endpoint.unix "/a%25").text = "unix:/a%25" := by decide
  have same := always _ _ read
  rw [text, again] at same
  exact absurd same (by decide)

end Endpoint

end Confinement
