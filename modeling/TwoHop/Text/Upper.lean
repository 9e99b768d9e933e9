namespace TwoHop.Text

def upperOutside : List (Char × String) := [
  ('ß', "SS"), ('ı', "I"), ('ſ', "S"), ('ﬀ', "FF"), ('ﬁ', "FI"), ('ﬂ', "FL"), ('ﬃ', "FFI"), ('ﬄ', "FFL"),
  ('ﬅ', "ST"), ('ﬆ', "ST")]

def upperChar (c : Char) : String := (upperOutside.lookup c).getD c.toUpper.toString

def upperText (s : String) : String := String.join (s.toList.map upperChar)

end TwoHop.Text
