import InlineEval.Text.Basic

/-!
# Scripts for the interpreter

The interpreter is started with a script. The bootstrap script reads a program
and perhaps an expression from its standard input, runs the one, evaluates the
other, and writes its report as the last line of its standard output. The
probe script prints what is known of the interpreter itself.
-/

namespace InlineEval.Interpreter

open Text

def scriptOfLines (lines : List String) : Text := joinLines (lines.map String.toList)

/-- Runs a program and reports the outcome. -/
def bootstrapScript : Text :=
  scriptOfLines [
    "",
    "import io",
    "import json",
    "import os",
    "import sys",
    "",
    "_payload = json.loads(sys.stdin.read())",
    "sys.stdin = io.StringIO(\"\")",
    "",
    "_real_stdout = sys.stdout",
    "_capture = io.StringIO()",
    "_result = \x7b",
    "    'success': False,",
    "    'variables': \x7b\x7d,",
    "    'expression': None,",
    "    'output': None,",
    "    'error': None,",
    "    'print_outputs': [],",
    "\x7d",
    "_hidden = \x7b'sys', 'io', 'json', 'print'\x7d",
    "_state = \x7b'count': 0, 'quiet': False\x7d",
    "_builtin_print = print",
    "",
    "",
    "class _Tee(io.TextIOBase):",
    "    def __init__(self, *streams):",
    "        self._streams = streams",
    "",
    "    def writable(self):",
    "        return True",
    "",
    "    def write(self, text):",
    "        for stream in self._streams:",
    "            stream.write(text)",
    "        return len(text)",
    "",
    "    def flush(self):",
    "        for stream in self._streams:",
    "            stream.flush()",
    "",
    "",
    "def _logging_print(*args, **kwargs):",
    "    target = kwargs.get('file')",
    "    if target is not None and target is not sys.stdout:",
    "        return _builtin_print(*args, **kwargs)",
    "    kwargs.pop('file', None)",
    "    if not _state['quiet']:",
    "        buf = io.StringIO()",
    "        _builtin_print(*args, file=buf, **kwargs)",
    "        _result['print_outputs'].append(\x7b'index': _state['count'], 'text': buf.getvalue().rstrip()\x7d)",
    "        _state['count'] += 1",
    "    _builtin_print(*args, **kwargs)",
    "",
    "",
    "def _clip(text, limit):",
    "    if len(text) > limit:",
    "        return text[:limit - 3] + '...'",
    "    return text",
    "",
    "",
    "def _render(value):",
    "    try:",
    "        if callable(value):",
    "            if hasattr(value, '__name__'):",
    "                return '<function %s>' % value.__name__",
    "            if hasattr(value, '__class__'):",
    "                return '<%s object>' % value.__class__.__name__",
    "            return '<callable>'",
    "        return _clip(repr(value), 100)",
    "    except Exception:",
    "        return '<%s>' % type(value).__name__",
    "",
    "",
    "def _classify(exc):",
    "    if isinstance(exc, IndentationError):",
    "        return 'Indentation Error: ' + str(exc).split(' (', 1)[0]",
    "    if isinstance(exc, SyntaxError):",
    "        return 'Syntax Error: ' + str(exc).split(' (', 1)[0]",
    "    if isinstance(exc, NameError):",
    "        return 'Name Error: ' + str(exc)",
    "    if isinstance(exc, RuntimeError):",
    "        return 'Runtime Error: ' + str(exc)",
    "    return '%s: %s' % (type(exc).__name__, _clip(str(exc), 100))",
    "",
    "",
    "_ns = \x7b'__name__': '__main__', '__builtins__': __builtins__, 'print': _logging_print\x7d",
    "sys.stdout = _Tee(_capture, _real_stdout)",
    "try:",
    "    exec(_payload['program'], _ns)",
    "    _vars = \x7b\x7d",
    "    for _name, _value in list(_ns.items()):",
    "        if _name.startswith('_') or _name in _hidden:",
    "            continue",
    "        _vars[_name] = _render(_value)",
    "    _result['variables'] = _vars",
    "    _result['success'] = True",
    "except BaseException as _exc:",
    "    _result['error'] = _classify(_exc)",
    "finally:",
    "    sys.stdout = _real_stdout",
    "",
    "_text = _capture.getvalue().strip()",
    "if _text:",
    "    _lines = _text.split('\\n')",
    "    if len(_lines) > 10:",
    "        _text = '\\n'.join(_lines[:10]) + '\\n... (%d more lines)' % (len(_lines) - 10)",
    "    _result['output'] = _text",
    "",
    "_line = _payload.get('expression')",
    "if _result['success'] and _line:",
    "    _state['quiet'] = True",
    "    sys.stdout = io.StringIO()",
    "    try:",
    "        _value = eval(_line, _ns)",
    "        if _value is not None:",
    "            _result['expression'] = _clip(repr(_value), 200)",
    "    except BaseException:",
    "        pass",
    "    finally:",
    "        sys.stdout = _real_stdout",
    "        _state['quiet'] = False",
    "",
    "try:",
    "    _real_stdout.flush()",
    "except Exception:",
    "    pass",
    "os.write(1, ('\\n' + json.dumps(_result) + '\\n').encode('utf-8'))",
    "os._exit(0)",
    ""]

/-- Prints the version of the interpreter, and whether it was built without
its global lock. -/
def probeScript : Text :=
  scriptOfLines [
    "",
    "import sys",
    "import sysconfig",
    "gil_disabled = sysconfig.get_config_var(\"Py_GIL_DISABLED\")",
    "print(f\"GIL_DISABLED:\x7bgil_disabled\x7d\")",
    "print(f\"VERSION:\x7bsys.version\x7d\")",
    ""]

end InlineEval.Interpreter
