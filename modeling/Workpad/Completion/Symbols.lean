import Workpad.Completion.Basic

/-!
The Python symbols that the pad completes, in the order in which they are matched: keywords, the
most used built-in names, the other ones, constants, exceptions and modules.
-/
namespace Workpad.Completion

def keywords : List Symbol := [
    ⟨"False", .keyword⟩, ⟨"None", .keyword⟩, ⟨"True", .keyword⟩, ⟨"and", .keyword⟩,
    ⟨"as", .keyword⟩, ⟨"assert", .keyword⟩, ⟨"async", .keyword⟩, ⟨"await", .keyword⟩,
    ⟨"break", .keyword⟩, ⟨"class", .keyword⟩, ⟨"continue", .keyword⟩, ⟨"def", .keyword⟩,
    ⟨"del", .keyword⟩, ⟨"elif", .keyword⟩, ⟨"else", .keyword⟩, ⟨"except", .keyword⟩,
    ⟨"finally", .keyword⟩, ⟨"for", .keyword⟩, ⟨"from", .keyword⟩, ⟨"global", .keyword⟩,
    ⟨"if", .keyword⟩, ⟨"import", .keyword⟩, ⟨"in", .keyword⟩, ⟨"is", .keyword⟩,
    ⟨"lambda", .keyword⟩, ⟨"nonlocal", .keyword⟩, ⟨"not", .keyword⟩, ⟨"or", .keyword⟩,
    ⟨"pass", .keyword⟩, ⟨"raise", .keyword⟩, ⟨"return", .keyword⟩, ⟨"try", .keyword⟩,
    ⟨"while", .keyword⟩, ⟨"with", .keyword⟩, ⟨"yield", .keyword⟩]

def commonNames : List Symbol := [
    ⟨"print", .function⟩, ⟨"len", .function⟩, ⟨"range", .function⟩, ⟨"input", .function⟩,
    ⟨"int", .type⟩, ⟨"str", .type⟩, ⟨"float", .type⟩, ⟨"list", .type⟩, ⟨"dict", .type⟩,
    ⟨"set", .type⟩, ⟨"tuple", .type⟩, ⟨"bool", .type⟩, ⟨"enumerate", .function⟩, ⟨"zip", .function⟩,
    ⟨"sorted", .function⟩, ⟨"sum", .function⟩, ⟨"min", .function⟩, ⟨"max", .function⟩,
    ⟨"abs", .function⟩, ⟨"round", .function⟩, ⟨"open", .function⟩, ⟨"isinstance", .function⟩,
    ⟨"type", .type⟩, ⟨"map", .function⟩, ⟨"filter", .function⟩]

def otherNames : List Symbol := [
    ⟨"aiter", .function⟩, ⟨"all", .function⟩, ⟨"anext", .function⟩, ⟨"any", .function⟩,
    ⟨"ascii", .function⟩, ⟨"bin", .function⟩, ⟨"breakpoint", .function⟩, ⟨"bytearray", .type⟩,
    ⟨"bytes", .type⟩, ⟨"callable", .function⟩, ⟨"chr", .function⟩, ⟨"classmethod", .type⟩,
    ⟨"compile", .function⟩, ⟨"complex", .type⟩, ⟨"delattr", .function⟩, ⟨"dir", .function⟩,
    ⟨"divmod", .function⟩, ⟨"eval", .function⟩, ⟨"exec", .function⟩, ⟨"format", .function⟩,
    ⟨"frozenset", .type⟩, ⟨"getattr", .function⟩, ⟨"globals", .function⟩, ⟨"hasattr", .function⟩,
    ⟨"hash", .function⟩, ⟨"help", .function⟩, ⟨"hex", .function⟩, ⟨"id", .function⟩,
    ⟨"issubclass", .function⟩, ⟨"iter", .function⟩, ⟨"locals", .function⟩, ⟨"memoryview", .type⟩,
    ⟨"next", .function⟩, ⟨"object", .type⟩, ⟨"oct", .function⟩, ⟨"ord", .function⟩,
    ⟨"pow", .function⟩, ⟨"property", .type⟩, ⟨"repr", .function⟩, ⟨"reversed", .type⟩,
    ⟨"setattr", .function⟩, ⟨"slice", .type⟩, ⟨"staticmethod", .type⟩, ⟨"super", .type⟩,
    ⟨"vars", .function⟩]

def constants : List Symbol := [
    ⟨"Ellipsis", .constant⟩, ⟨"NotImplemented", .constant⟩, ⟨"__name__", .constant⟩]

def exceptions : List Symbol := [
    ⟨"Exception", .type⟩, ⟨"ValueError", .type⟩, ⟨"TypeError", .type⟩, ⟨"KeyError", .type⟩,
    ⟨"IndexError", .type⟩, ⟨"ZeroDivisionError", .type⟩, ⟨"RuntimeError", .type⟩,
    ⟨"StopIteration", .type⟩]

def libraries : List Symbol := [
    ⟨"numpy", .library⟩, ⟨"pandas", .library⟩, ⟨"matplotlib", .library⟩, ⟨"math", .library⟩,
    ⟨"random", .library⟩, ⟨"datetime", .library⟩, ⟨"collections", .library⟩,
    ⟨"itertools", .library⟩, ⟨"functools", .library⟩, ⟨"json", .library⟩, ⟨"re", .library⟩,
    ⟨"os", .library⟩, ⟨"sys", .library⟩, ⟨"time", .library⟩, ⟨"statistics", .library⟩,
    ⟨"asyncio", .library⟩]

def pythonSymbols : List Symbol :=
  keywords ++ commonNames ++ otherNames ++ constants ++ exceptions ++ libraries

end Workpad.Completion
