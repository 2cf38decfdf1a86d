import DynLisp.Text.Encoding.Grid

/-!
Characters that vendors put in cells of Big5, or in place of those there.
-/

namespace DynLisp.Charset

def big5Windows : List Span := [
  ⟨0xa1, 0x05, "‧"⟩, ⟨0xa1, 0x0e, "﹑"⟩, ⟨0xa1, 0x60, "¯"⟩, ⟨0xa1, 0x81, "～"⟩, ⟨0xa1, 0x90, "⊕⊙"⟩,
  ⟨0xa2, 0x01, "∕﹨"⟩, ⟨0xa2, 0x04, "￥"⟩, ⟨0xa2, 0x06, "￠￡"⟩, ⟨0xa3, 0x7f, "€"⟩,
  ⟨0xf9, 0x74, "碁銹裏墻恒粧嫺╔╦╗╠╬╣╚╩╝╒╤╕╞╪╡╘╧╛╓╥╖╟╫╢╙╨╜║═╭╮╰╯▓"⟩]

end DynLisp.Charset
