import FencedHighlight.Unicode.RangeTable

namespace FencedHighlight
namespace Unicode
namespace Category

/-!
The general categories of the major class separator, as range tables.
-/

def spaceSeparator : RangeTable := ⟨#[
  32, 33, 160, 161, 5760, 5761, 8192, 8203, 8239, 8240, 8287, 8288, 12288,
  12289]⟩

def lineSeparator : RangeTable := ⟨#[
  8232, 8233]⟩

def paragraphSeparator : RangeTable := ⟨#[
  8233, 8234]⟩

end Category
end Unicode
end FencedHighlight
