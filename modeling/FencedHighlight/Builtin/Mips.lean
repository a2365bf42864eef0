import FencedHighlight.GrammarFile.Definition

namespace FencedHighlight
namespace Builtin

/-!
The built-in grammar for MIPS assembly.
-/

def mips : GrammarFile where
  name := "mips"
  rules := [
    ("comment", [
      .plain { pattern := some "(?m)#.*$", synonym := some "comment", greedy := true }]),
    ("number", [
      .plain { pattern := some "\\b(?:0x[\\da-fA-F]+|\\d+)\\b", synonym := some "number" }]),
    ("string", [
      .plain { pattern := some "([\"'])(?:\\\\(?:\\r\\n|[\\s\\S])|(?!\\1)[^\\\\\\r\\n])*\\1"
               greedy := true }]),
    ("directive", [
      .plain { pattern := some "(?m)^\\s*\\.[a-zA-Z]+", synonym := some "keyword" }]),
    ("keyword", [
      .plain { pattern := some "\\b(?:add|addi|addiu|addu|and|andi|beq|bgez|bgezal|bgtz|blez|bltz|bltzal|bne|div|divu|j|jal|jr|lbu|lhu|ll|lui|lw|mfhi|mflo|mult|multu|nor|or|ori|sb|sh|sll|sllv|slt|slti|sltiu|sltu|sra|srav|srl|srlv|sub|subu|sw|syscall|xor|xori)\\b"
               synonym := some "keyword" }]),
    ("label", [
      .plain { pattern := some "(?m)^\\s*[a-zA-Z0-9_]+(?=:)", synonym := some "function" },
      .plain { pattern := some "(?m)(^|\\s+)[a-zA-Z0-9_]+(?=\\s*(?:$|[,)]|\\s+#))"
               synonym := some "function"
               lookbehind := true }]),
    ("register", [.plain { pattern := some "\\$[a-z0-9]+", synonym := some "variable" }]),
    ("operator", [.plain { pattern := some "[+\\-*/%<>=&|]", synonym := some "operator" }]),
    ("instruction", [
      .plain { pattern := some "(?m)^\\s*\\b[a-zA-Z]+", synonym := some "builtin" }]),
    ("punctuation", [.plain { pattern := some "[(),:]" }]),
    ("symbol", [
      .plain { pattern := some "\\$\\b(?:zero|at|v[01]|a[0-3]|t\\d|s[0-7]|k[01]|gp|sp|fp|ra)\\b"
               synonym := some "variable" }])]

end Builtin
end FencedHighlight
