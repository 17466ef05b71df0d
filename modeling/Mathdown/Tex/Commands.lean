namespace Mathdown.Tex

inductive Argument where
  /-- Math or text, like what it stands in. -/
  | same
  /-- The next group, symbol or command without a group of its own. -/
  | next
  | math
  | text
  | size
  | color
  /-- Anything whose braces match. -/
  | raw
  | delimiter
deriving Repr, DecidableEq

/-- What a command takes, and where it may stand. -/
structure Shape where
  /-- The argument in brackets that may come first. -/
  optional : Option Argument := none
  args : List Argument := []
  /-- Whether it may be a script or another argument without braces. -/
  inArgument : Bool := false
  inText : Bool := false
  /-- Whether limits may follow. -/
  isOperator : Bool := false
  /-- Whether it parts a group in two, like the bar of a fraction. -/
  isBar : Bool := false

def words (text : String) : List String :=
  ((text.splitOn "\n").flatMap (·.splitOn " ")).filter (· != "")

/-- Some commands of one shape. -/
structure Family where
  names : List String
  shape : Shape

def greek : List String := words
  "alpha beta gamma delta epsilon zeta eta theta iota kappa lambda mu nu xi omicron pi rho sigma
   tau upsilon phi chi psi omega varepsilon vartheta varpi varrho varsigma varphi digamma varkappa
   Gamma Delta Theta Lambda Xi Pi Sigma Upsilon Phi Psi Omega varGamma varDelta varTheta varLambda
   varXi varPi varSigma varUpsilon varPhi varPsi varOmega Alpha Beta Epsilon Zeta Eta Iota Kappa
   Mu Nu Omicron Rho Tau Chi thetasym"

def relations : List String := words
  "equiv prec succ sim perp preceq succeq simeq mid ll gg asymp parallel bowtie smile sqsubseteq
   sqsupseteq doteq frown ni owns propto vdash dashv in notin subset supset subseteq supseteq
   nsubseteq nsupseteq models approx cong neq ne leq le geq ge lt gt not notni leqq leqslant
   eqslantless lesssim lessapprox approxeq lessdot lll lessgtr lesseqgtr lesseqqgtr doteqdot
   risingdotseq fallingdotseq backsim backsimeq subseteqq Subset sqsubset preccurlyeq curlyeqprec
   precsim precapprox vartriangleleft trianglelefteq vDash Vvdash smallsmile smallfrown bumpeq
   Bumpeq geqq geqslant eqslantgtr gtrsim gtrapprox gtrdot ggg gtrless gtreqless gtreqqless eqcirc
   circeq triangleq thicksim thickapprox supseteqq Supset sqsupset succcurlyeq curlyeqsucc succsim
   succapprox vartriangleright trianglerighteq Vdash shortmid shortparallel between pitchfork
   varpropto blacktriangleleft therefore backepsilon blacktriangleright because llless gggtr lhd
   rhd eqsim Join Doteq nless nleqslant nleqq nleq lneq lneqq lvertneqq lnsim lnapprox nprec
   npreceq precnsim precnapprox precneqq nsim nshortmid nmid nvdash nvDash ntriangleleft
   ntrianglelefteq subsetneq varsubsetneq subsetneqq varsubsetneqq nsubseteqq ngtr ngeqslant ngeqq
   ngeq gneq gneqq gvertneqq gnsim gnapprox nsucc nsucceq succnsim succnapprox succneqq ncong
   nshortparallel nparallel nVDash nVdash ntriangleright ntrianglerighteq supsetneq varsupsetneq
   supsetneqq varsupsetneqq nsupseteqq unlhd unrhd vcentcolon ordinarycolon dblcolon ratio
   coloncolon coloneqq Coloneqq coloneq Coloneq eqqcolon Eqqcolon eqcolon Eqcolon colonapprox
   Colonapprox colonsim Colonsim colonequals coloncolonequals equalscolon equalscoloncolon
   colonminus coloncolonminus minuscolon minuscoloncolon coloncolonapprox coloncolonsim simcolon
   simcoloncolon approxcolon approxcoloncolon isin sub sube supe exist"

def arrows : List String := words
  "leftarrow gets rightarrow to uparrow downarrow updownarrow Leftarrow Rightarrow Uparrow
   Downarrow Updownarrow leftrightarrow Leftrightarrow longleftarrow Longleftarrow longrightarrow
   Longrightarrow longleftrightarrow Longleftrightarrow mapsto longmapsto nearrow searrow swarrow
   nwarrow hookleftarrow hookrightarrow leftharpoonup leftharpoondown rightharpoonup
   rightharpoondown rightleftharpoons leftrightharpoons nleftarrow nrightarrow nLeftarrow
   nRightarrow nleftrightarrow nLeftrightarrow dashrightarrow dashleftarrow leftleftarrows
   rightrightarrows leftrightarrows rightleftarrows Lleftarrow Rrightarrow twoheadleftarrow
   twoheadrightarrow leftarrowtail rightarrowtail looparrowleft looparrowright curvearrowleft
   curvearrowright circlearrowleft circlearrowright Lsh Rsh upuparrows downdownarrows
   upharpoonleft upharpoonright downharpoonleft downharpoonright multimap origof imageof
   leftrightsquigarrow rightsquigarrow leadsto restriction iff implies impliedby darr dArr Darr
   uarr uArr Uarr larr lArr Larr rarr rArr Rarr harr hArr Harr lrarr lrArr Lrarr"

def operations : List String := words
  "pm mp times div cdot circ ast star cap cup uplus sqcap sqcup vee wedge land lor setminus wr
   amalg And ominus oplus otimes oslash odot bigcirc bullet dagger ddagger Dagger diamond
   bigtriangleup bigtriangledown triangleleft triangleright dotplus smallsetminus Cap Cup
   doublecap doublecup barwedge veebar doublebarwedge boxminus boxplus boxtimes boxdot
   divideontimes ltimes rtimes leftthreetimes rightthreetimes curlywedge curlyvee circleddash
   circledast circledcirc centerdot intercal sdot plusmn minuso bmod"

def marks : List String := words
  "aleph beth gimel daleth alef alefsym forall exists nexists nabla partial infty prime backprime
   angle measuredangle sphericalangle triangle triangledown vartriangle lozenge square Box Diamond
   bigstar blacktriangle blacktriangledown blacksquare blacklozenge flat natural sharp clubsuit
   diamondsuit heartsuit spadesuit clubs diamonds hearts spades hbar hslash ell wp weierp Re Im
   real image Finv Game eth mho complement circledS circledR diagup diagdown surd neg lnot top bot
   emptyset varnothing empty imath jmath dag ddag S P sect checkmark maltese yen pounds
   mathsterling degree copyright infin bull N R Z natnums reals Reals cnums Complex Bbbk
   ldots cdots ddots vdots dots dotsb dotsc dotsi dotsm dotso dotsx mathellipsis
   ldotp cdotp colon lq rq aa AA TeX LaTeX KaTeX mathstrut nobreakspace space nobreak allowbreak
   quad qquad enspace enskip thinspace medspace thickspace negthinspace negmedspace
   negthickspace relax notag nonumber newline limitsoff Thorn thorn"

def fences : List String := words
  "langle rangle lang rang lvert rvert lVert rVert vert Vert lfloor rfloor lceil rceil lbrace
   rbrace lbrack rbrack lparen rparen lgroup rgroup lmoustache rmoustache ulcorner urcorner
   llcorner lrcorner llbracket rrbracket lBrace rBrace backslash"

def shortSymbols : List String := words "# $ % & _ \x7b \x7d | , ; : > !" ++ [" "]

def textSymbols : List String := words
  "i j ss ae AE oe OE o O aa AA textdagger textdaggerdbl textasciitilde textasciicircum
   textbackslash textbar textbardbl textbraceleft textbraceright textdollar textellipsis
   textemdash textendash textgreater textless textquotedblleft textquotedblright textquoteleft
   textquoteright textregistered textcopyright textsterling textunderscore textdegree textyen
   ldots dots pounds degree copyright dag ddag S P space nobreakspace relax quad qquad enspace
   thinspace TeX LaTeX KaTeX"

def symbols : List String :=
  greek ++ relations ++ arrows ++ operations ++ marks ++ fences ++ shortSymbols ++ textSymbols

private def one (argument : Argument) : Shape := { args := [argument] }

def families : List Family :=
  [⟨words "frac dfrac tfrac binom dbinom tbinom",
      { args := [.same, .same], inArgument := true }⟩,
   ⟨words "cfrac stackrel overset underset",  { args := [.same, .same] }⟩,
   ⟨["genfrac"], { args := [.math, .math, .size, .text, .math, .math], inArgument := true }⟩,
   ⟨words "over choose atop brace brack", { isBar := true }⟩,
   ⟨["above"], { args := [.size], isBar := true }⟩,
   ⟨["sqrt"], { optional := some .same, args := [.next] }⟩,
   ⟨words "acute grave ddot tilde bar breve check hat vec dot mathring widecheck widehat widetilde
      overrightarrow overleftarrow Overrightarrow overleftrightarrow overgroup overlinesegment
      overleftharpoon overrightharpoon underleftarrow underrightarrow underleftrightarrow
      undergroup underlinesegment utilde overline overbrace underbrace boldsymbol bm substack
      boxed mathllap mathrlap mathclap hphantom vphantom vcenter cancel bcancel xcancel sout
      phase bra ket braket Bra Ket Braket set Set", one .same⟩,
   ⟨words "' ` ^ ~ = \" . u c r H v textcircled", { args := [.next], inText := true }⟩,
   ⟨words "xleftarrow xrightarrow xLeftarrow xRightarrow xleftrightarrow xLeftrightarrow
      xhookleftarrow xhookrightarrow xmapsto xrightharpoondown xrightharpoonup xleftharpoondown
      xleftharpoonup xrightleftharpoons xleftrightharpoons xlongequal xtwoheadrightarrow
      xtwoheadleftarrow xtofrom xrightleftarrows xrightequilibrium xleftequilibrium",
      { optional := some .same, args := [.same] }⟩,
   ⟨words "mathrm mathit mathbf mathnormal mathsfit mathbb mathcal mathfrak mathscr mathsf mathtt
      Bbb bold frak", { args := [.same], inArgument := true }⟩,
   ⟨words "rm sf tt bf it cal tiny sixptsize scriptsize footnotesize small normalsize large Large
      LARGE huge Huge displaystyle textstyle scriptstyle scriptscriptstyle", { inText := true }⟩,
   ⟨words "text textrm textsf texttt textnormal textbf textmd textit textup emph",
      { args := [.text], inArgument := true, inText := true }⟩,
   ⟨words "hbox mbox fbox angl llap rlap clap", { args := [.text], inText := true }⟩,
   ⟨words "underline phantom pmb underbar", { args := [.same], inText := true }⟩,
   ⟨["smash"], { optional := some .raw, args := [.same], inText := true }⟩,
   ⟨["textcolor"], { args := [.color, .same], inText := true }⟩,
   ⟨["color"], { args := [.color], inText := true }⟩,
   ⟨["colorbox"], { args := [.color, .text], inText := true }⟩,
   ⟨["fcolorbox"], { args := [.color, .color, .text], inText := true }⟩,
   ⟨words "blue orange pink red green gray purple", one .same⟩,
   ⟨words "mathord mathbin mathrel mathopen mathclose mathpunct mathinner", one .next⟩,
   ⟨["mathop"], { args := [.next], isOperator := true }⟩,
   ⟨words "operatorname operatornamewithlimits", { args := [.same], isOperator := true }⟩,
   ⟨words "sum prod coprod bigvee bigwedge biguplus bigcap bigcup intop bigotimes bigoplus bigodot
      bigsqcup smallint int iint iiint oint oiint oiiint arcsin arccos arctan arctg arcctg arg ch
      cos cosec cosh cot cotg coth csc ctg cth deg dim exp hom ker lg ln log sec sin sinh sh tan
      tanh tg th det gcd inf lim max min Pr sup limsup liminf injlim projlim varlimsup varliminf
      varinjlim varprojlim argmin argmax plim", { isOperator := true }⟩,
   ⟨words "big Big bigg Bigg bigl Bigl biggl Biggl bigr Bigr biggr Biggr bigm Bigm biggm Biggm",
      one .delimiter⟩,
   ⟨words "kern mkern hskip mskip hspace hspace*", { args := [.size], inText := true }⟩,
   ⟨["rule"], { optional := some .size, args := [.size, .size], inText := true }⟩,
   ⟨["raisebox"], { args := [.size, .text], inText := true }⟩,
   ⟨["mathchoice"], { args := [.same, .same, .same, .same] }⟩,
   ⟨words "pod pmod mod", one .same⟩,
   ⟨["tag"], one .text⟩,
   ⟨["href"], { args := [.raw, .same], inText := true }⟩,
   ⟨["url"], { args := [.raw], inText := true }⟩,
   ⟨["includegraphics"], { optional := some .raw, args := [.raw] }⟩,
   ⟨words "htmlClass htmlId htmlStyle htmlData", { args := [.raw, .same], inText := true }⟩,
   ⟨["char"], one .raw⟩]

def shape? (name : String) : Option Shape :=
  (families.find? (·.names.contains name)).map (·.shape)

def delimiterChars : List Char := "()[]<>/|.⌊⌋⌈⌉⟨⟩⟮⟯⎰⎱".toList

def delimiterNames : List String := words
  "lparen rparen lbrack rbrack \x7b \x7d lbrace rbrace lfloor rfloor lceil rceil langle rangle
   lang rang lt gt lvert rvert lVert rVert lgroup rgroup lmoustache rmoustache backslash vert |
   Vert uparrow Uparrow downarrow Downarrow updownarrow Updownarrow ulcorner urcorner llcorner
   lrcorner"

/-- What an environment takes after its name, and whether it is for displayed math only. -/
structure Environment where
  optional : Bool := false
  args : List Argument := []
  displayOnly : Bool := false

def environment? (name : String) : Option Environment :=
  if (words "array darray subarray alignedat").contains name then some { args := [.raw] }
  else if (words "matrix pmatrix bmatrix Bmatrix vmatrix Vmatrix smallmatrix cases dcases rcases
      drcases aligned split gathered").contains name then some {}
  else if (words "matrix* pmatrix* bmatrix* Bmatrix* vmatrix* Vmatrix*").contains name then
    some { optional := true }
  else if (words "align align* gather gather* equation equation* CD").contains name then
    some { displayOnly := true }
  else if (words "alignat alignat*").contains name then
    some { args := [.raw], displayOnly := true }
  else none

end Mathdown.Tex
