import IssueFeed.Text.Blank
import IssueFeed.Text.Digit

/-!
The named character references of HTML. A name stands with its semicolon if it has one; of two names
where one begins the other, the longer comes first, so the first that fits is the longest.
-/
namespace IssueFeed.Html

open Text (splitOn isXmlBlank number? character?)

/-- The names, each with the code points that it stands for. -/
def referenceNames : String := "
zwnj;=200c zwj;=200d zscr;=1d4cf zopf;=1d56b zigrarr;=21dd zhcy;=436 zfr;=1d537 zeta;=3b6
zeetrf;=2128 zdot;=17c zcy;=437 zcaron;=17e zacute;=17a yuml;=ff yuml=ff yucy;=44e yscr;=1d4ce
yopf;=1d56a yicy;=457 yfr;=1d536 yen;=a5 yen=a5 ycy;=44b ycirc;=177 yacy;=44f yacute;=fd yacute=fd
xwedge;=22c0 xvee;=22c1 xutri;=25b3 xuplus;=2a04 xsqcup;=2a06 xscr;=1d4cd xrarr;=27f6 xrArr;=27f9
xotime;=2a02 xoplus;=2a01 xopf;=1d569 xodot;=2a00 xnis;=22fb xmap;=27fc xlarr;=27f5 xlArr;=27f8
xi;=3be xharr;=27f7 xhArr;=27fa xfr;=1d535 xdtri;=25bd xcup;=22c3 xcirc;=25ef xcap;=22c2
wscr;=1d4cc wreath;=2240 wr;=2240 wp;=2118 wopf;=1d568 wfr;=1d534 weierp;=2118 wedgeq;=2259
wedge;=2227 wedbar;=2a5f wcirc;=175 vzigzag;=299a vsupne;=228b.fe00 vsupnE;=2acc.fe00
vsubne;=228a.fe00 vsubnE;=2acb.fe00 vscr;=1d4cb vrtri;=22b3 vprop;=221d vopf;=1d567
vnsup;=2283.20d2 vnsub;=2282.20d2 vltri;=22b2 vfr;=1d533 vert;=7c verbar;=7c vellip;=22ee
veeeq;=225a veebar;=22bb vee;=2228 vdash;=22a2 vcy;=432 vartriangleright;=22b3
vartriangleleft;=22b2 vartheta;=3d1 varsupsetneqq;=2acc.fe00 varsupsetneq;=228b.fe00
varsubsetneqq;=2acb.fe00 varsubsetneq;=228a.fe00 varsigma;=3c2 varrho;=3f1 varr;=2195
varpropto;=221d varpi;=3d6 varphi;=3d5 varnothing;=2205 varkappa;=3f0 varepsilon;=3f5 vangrt;=299c
vDash;=22a8 vBarv;=2ae9 vBar;=2ae8 vArr;=21d5 uwangle;=29a7 uuml;=fc uuml=fc uuarr;=21c8
utrif;=25b4 utri;=25b5 utilde;=169 utdot;=22f0 uscr;=1d4ca urtri;=25f9 uring;=16f urcrop;=230e
urcorner;=231d urcorn;=231d upuparrows;=21c8 upsilon;=3c5 upsih;=3d2 upsi;=3c5 uplus;=228e
upharpoonright;=21be upharpoonleft;=21bf updownarrow;=2195 uparrow;=2191 uopf;=1d566 uogon;=173
uml;=a8 uml=a8 umacr;=16b ultri;=25f8 ulcrop;=230f ulcorner;=231c ulcorn;=231c uhblk;=2580
uharr;=21be uharl;=21bf ugrave;=f9 ugrave=f9 ufr;=1d532 ufisht;=297e udhar;=296e udblac;=171
udarr;=21c5 ucy;=443 ucirc;=fb ucirc=fb ubreve;=16d ubrcy;=45e uarr;=2191 uacute;=fa uacute=fa
uHar;=2963 uArr;=21d1 twoheadrightarrow;=21a0 twoheadleftarrow;=219e twixt;=226c tstrok;=167
tshcy;=45b tscy;=446 tscr;=1d4c9 trpezium;=23e2 tritime;=2a3b trisb;=29cd triplus;=2a39
triminus;=2a3a trie;=225c tridot;=25ec trianglerighteq;=22b5 triangleright;=25b9 triangleq;=225c
trianglelefteq;=22b4 triangleleft;=25c3 triangledown;=25bf triangle;=25b5 trade;=2122 tprime;=2034
tosa;=2929 topfork;=2ada topf;=1d565 topcir;=2af1 topbot;=2336 top;=22a4 toea;=2928 tint;=222d
timesd;=2a30 timesbar;=2a31 timesb;=22a0 times;=d7 times=d7 tilde;=2dc thorn;=fe thorn=fe
thksim;=223c thkap;=2248 thinsp;=2009 thicksim;=223c thickapprox;=2248 thetav;=3d1 thetasym;=3d1
theta;=3b8 therefore;=2234 there4;=2234 tfr;=1d531 telrec;=2315 tdot;=20db tcy;=442 tcedil;=163
tcaron;=165 tbrk;=23b4 tau;=3c4 target;=2316 szlig;=df szlig=df swnwar;=292a swarrow;=2199
swarr;=2199 swarhk;=2926 swArr;=21d9 supsup;=2ad6 supsub;=2ad4 supsim;=2ac8 supsetneqq;=2acc
supsetneq;=228b supseteqq;=2ac6 supseteq;=2287 supset;=2283 supplus;=2ac0 supne;=228b supnE;=2acc
supmult;=2ac2 suplarr;=297b suphsub;=2ad7 suphsol;=27c9 supedot;=2ac4 supe;=2287 supdsub;=2ad8
supdot;=2abe supE;=2ac6 sup;=2283 sup3;=b3 sup3=b3 sup2;=b2 sup2=b2 sup1;=b9 sup1=b9 sung;=266a
sum;=2211 succsim;=227f succnsim;=22e9 succneqq;=2ab6 succnapprox;=2aba succeq;=2ab0
succcurlyeq;=227d succapprox;=2ab8 succ;=227b subsup;=2ad3 subsub;=2ad5 subsim;=2ac7
subsetneqq;=2acb subsetneq;=228a subseteqq;=2ac5 subseteq;=2286 subset;=2282 subrarr;=2979
subplus;=2abf subne;=228a subnE;=2acb submult;=2ac1 subedot;=2ac3 sube;=2286 subdot;=2abd
subE;=2ac5 sub;=2282 strns;=af straightphi;=3d5 straightepsilon;=3f5 starf;=2605 star;=2606
sstarf;=22c6 ssmile;=2323 ssetmn;=2216 sscr;=1d4c8 srarr;=2192 squf;=25aa squarf;=25aa
square;=25a1 squ;=25a1 sqsupseteq;=2292 sqsupset;=2290 sqsupe;=2292 sqsup;=2290 sqsubseteq;=2291
sqsubset;=228f sqsube;=2291 sqsub;=228f sqcups;=2294.fe00 sqcup;=2294 sqcaps;=2293.fe00
sqcap;=2293 spar;=2225 spadesuit;=2660 spades;=2660 sopf;=1d564 solbar;=233f solb;=29c4 sol;=2f
softcy;=44c smtes;=2aac.fe00 smte;=2aac smt;=2aaa smile;=2323 smid;=2223 smeparsl;=29e4
smashp;=2a33 smallsetminus;=2216 slarr;=2190 simrarr;=2972 simplus;=2a24 simne;=2246 simlE;=2a9f
siml;=2a9d simgE;=2aa0 simg;=2a9e simeq;=2243 sime;=2243 simdot;=2a6a sim;=223c sigmav;=3c2
sigmaf;=3c2 sigma;=3c3 shy;=ad shy=ad shortparallel;=2225 shortmid;=2223 shcy;=448 shchcy;=449
sharp;=266f sfrown;=2322 sfr;=1d530 sext;=2736 setmn;=2216 setminus;=2216 seswar;=2929 semi;=3b
sect;=a7 sect=a7 searrow;=2198 searr;=2198 searhk;=2925 seArr;=21d8 sdote;=2a66 sdotb;=22a1
sdot;=22c5 scy;=441 scsim;=227f scpolint;=2a13 scnsim;=22e9 scnap;=2aba scnE;=2ab6 scirc;=15d
scedil;=15f sce;=2ab0 sccue;=227d scaron;=161 scap;=2ab8 scE;=2ab4 sc;=227b sbquo;=201a
sacute;=15b rx;=211e ruluhar;=2968 rtriltri;=29ce rtrif;=25b8 rtrie;=22b5 rtri;=25b9 rtimes;=22ca
rthree;=22cc rsquor;=2019 rsquo;=2019 rsqb;=5d rsh;=21b1 rscr;=1d4c7 rsaquo;=203a rrarr;=21c9
rppolint;=2a12 rpargt;=2994 rpar;=29 rotimes;=2a35 roplus;=2a2e ropf;=1d563 ropar;=2986
robrk;=27e7 roarr;=21fe roang;=27ed rnmid;=2aee rmoustache;=23b1 rmoust;=23b1 rlm;=200f
rlhar;=21cc rlarr;=21c4 risingdotseq;=2253 ring;=2da rightthreetimes;=22cc rightsquigarrow;=219d
rightrightarrows;=21c9 rightleftharpoons;=21cc rightleftarrows;=21c4 rightharpoonup;=21c0
rightharpoondown;=21c1 rightarrowtail;=21a3 rightarrow;=2192 rhov;=3f1 rho;=3c1 rharul;=296c
rharu;=21c0 rhard;=21c1 rfr;=1d52f rfloor;=230b rfisht;=297d reg;=ae reg=ae rect;=25ad reals;=211d
realpart;=211c realine;=211b real;=211c rdsh;=21b3 rdquor;=201d rdquo;=201d rdldhar;=2969
rdca;=2937 rcy;=440 rcub;=7d rceil;=2309 rcedil;=157 rcaron;=159 rbrkslu;=2990 rbrksld;=298e
rbrke;=298c rbrack;=5d rbrace;=7d rbbrk;=2773 rbarr;=290d rationals;=211a ratio;=2236 ratail;=291a
rarrw;=219d rarrtl;=21a3 rarrsim;=2974 rarrpl;=2945 rarrlp;=21ac rarrhk;=21aa rarrfs;=291e
rarrc;=2933 rarrbfs;=2920 rarrb;=21e5 rarrap;=2975 rarr;=2192 raquo;=bb raquo=bb rangle;=27e9
range;=29a5 rangd;=2992 rang;=27e9 raemptyv;=29b3 radic;=221a racute;=155 race;=223d.331
rHar;=2964 rBarr;=290f rAtail;=291c rArr;=21d2 rAarr;=21db quot;=22 quot=22 questeq;=225f
quest;=3f quatint;=2a16 quaternions;=210d qscr;=1d4c6 qprime;=2057 qopf;=1d562 qint;=2a0c
qfr;=1d52e puncsp;=2008 psi;=3c8 pscr;=1d4c5 prurel;=22b0 prsim;=227e propto;=221d prop;=221d
profsurf;=2313 profline;=2312 profalar;=232e prod;=220f prnsim;=22e8 prnap;=2ab9 prnE;=2ab5
primes;=2119 prime;=2032 precsim;=227e precnsim;=22e8 precneqq;=2ab5 precnapprox;=2ab9
preceq;=2aaf preccurlyeq;=227c precapprox;=2ab7 prec;=227a pre;=2aaf prcue;=227c prap;=2ab7
prE;=2ab3 pr;=227a pound;=a3 pound=a3 popf;=1d561 pointint;=2a15 pm;=b1 plustwo;=2a27
plussim;=2a26 plusmn;=b1 plusmn=b1 pluse;=2a72 plusdu;=2a25 plusdo;=2214 pluscir;=2a22 plusb;=229e
plusacir;=2a23 plus;=2b plankv;=210f planckh;=210e planck;=210f piv;=3d6 pitchfork;=22d4 pi;=3c0
phone;=260e phmmat;=2133 phiv;=3d5 phi;=3c6 pfr;=1d52d pertenk;=2031 perp;=22a5 permil;=2030
period;=2e percnt;=25 pcy;=43f part;=2202 parsl;=2afd parsim;=2af3 parallel;=2225 para;=b6 para=b6
par;=2225 ovbar;=233d ouml;=f6 ouml=f6 otimesas;=2a36 otimes;=2297 otilde;=f5 otilde=f5 osol;=2298
oslash;=f8 oslash=f8 oscr;=2134 orv;=2a5b orslope;=2a57 oror;=2a56 origof;=22b6 ordm;=ba ordm=ba
ordf;=aa ordf=aa orderof;=2134 order;=2134 ord;=2a5d orarr;=21bb or;=2228 oplus;=2295 operp;=29b9
opar;=29b7 oopf;=1d560 ominus;=2296 omid;=29b6 omicron;=3bf omega;=3c9 omacr;=14d olt;=29c0
oline;=203e olcross;=29bb olcir;=29be olarr;=21ba oint;=222e ohm;=3a9 ohbar;=29b5 ogt;=29c1
ograve;=f2 ograve=f2 ogon;=2db ofr;=1d52c ofcir;=29bf oelig;=153 odsold;=29bc odot;=2299
odiv;=2a38 odblac;=151 odash;=229d ocy;=43e ocirc;=f4 ocirc=f4 ocir;=229a oast;=229b oacute;=f3
oacute=f3 oS;=24c8 nwnear;=2927 nwarrow;=2196 nwarr;=2196 nwarhk;=2923 nwArr;=21d6
nvsim;=223c.20d2 nvrtrie;=22b5.20d2 nvrArr;=2903 nvltrie;=22b4.20d2 nvlt;=3c.20d2 nvle;=2264.20d2
nvlArr;=2902 nvinfin;=29de nvgt;=3e.20d2 nvge;=2265.20d2 nvdash;=22ac nvap;=224d.20d2 nvHarr;=2904
nvDash;=22ad numsp;=2007 numero;=2116 num;=23 nu;=3bd ntrianglerighteq;=22ed ntriangleright;=22eb
ntrianglelefteq;=22ec ntriangleleft;=22ea ntlg;=2278 ntilde;=f1 ntilde=f1 ntgl;=2279
nsupseteqq;=2ac6.338 nsupseteq;=2289 nsupset;=2283.20d2 nsupe;=2289 nsupE;=2ac6.338 nsup;=2285
nsucceq;=2ab0.338 nsucc;=2281 nsubseteqq;=2ac5.338 nsubseteq;=2288 nsubset;=2282.20d2 nsube;=2288
nsubE;=2ac5.338 nsub;=2284 nsqsupe;=22e3 nsqsube;=22e2 nspar;=2226 nsmid;=2224 nsimeq;=2244
nsime;=2244 nsim;=2241 nshortparallel;=2226 nshortmid;=2224 nscr;=1d4c3 nsce;=2ab0.338
nsccue;=22e1 nsc;=2281 nrtrie;=22ed nrtri;=22eb nrightarrow;=219b nrarrw;=219d.338
nrarrc;=2933.338 nrarr;=219b nrArr;=21cf npreceq;=2aaf.338 nprec;=2280 npre;=2aaf.338 nprcue;=22e0
npr;=2280 npolint;=2a14 npart;=2202.338 nparsl;=2afd.20e5 nparallel;=2226 npar;=2226 notnivc;=22fd
notnivb;=22fe notniva;=220c notni;=220c notinvc;=22f6 notinvb;=22f7 notinva;=2209
notindot;=22f5.338 notinE;=22f9.338 notin;=2209 not;=ac not=ac nopf;=1d55f nmid;=2224 nltrie;=22ec
nltri;=22ea nlt;=226e nlsim;=2274 nless;=226e nles;=2a7d.338 nleqslant;=2a7d.338 nleqq;=2266.338
nleq;=2270 nleftrightarrow;=21ae nleftarrow;=219a nle;=2270 nldr;=2025 nlarr;=219a nlE;=2266.338
nlArr;=21cd njcy;=45a niv;=220b nisd;=22fa nis;=22fc ni;=220b nhpar;=2af2 nharr;=21ae nhArr;=21ce
ngtr;=226f ngt;=226f ngsim;=2275 nges;=2a7e.338 ngeqslant;=2a7e.338 ngeqq;=2267.338 ngeq;=2271
nge;=2271 ngE;=2267.338 nfr;=1d52b nexists;=2204 nexist;=2204 nesim;=2242.338 nesear;=2928
nequiv;=2262 nedot;=2250.338 nearrow;=2197 nearr;=2197 nearhk;=2924 neArr;=21d7 ne;=2260
ndash;=2013 ncy;=43d ncup;=2a42 ncongdot;=2a6d.338 ncong;=2247 ncedil;=146 ncaron;=148 ncap;=2a43
nbumpe;=224f.338 nbump;=224e.338 nbsp;=a0 nbsp=a0 naturals;=2115 natural;=266e natur;=266e
napprox;=2249 napos;=149 napid;=224b.338 napE;=2a70.338 nap;=2249 nang;=2220.20d2 nacute;=144
nabla;=2207 nVdash;=22ae nVDash;=22af nRightarrow;=21cf nLtv;=226a.338 nLt;=226a.20d2
nLl;=22d8.338 nLeftrightarrow;=21ce nLeftarrow;=21cd nGtv;=226b.338 nGt;=226b.20d2 nGg;=22d9.338
mumap;=22b8 multimap;=22b8 mu;=3bc mstpos;=223e mscr;=1d4c2 mp;=2213 mopf;=1d55e models;=22a7
mnplus;=2213 mldr;=2026 mlcp;=2adb minusdu;=2a2a minusd;=2238 minusb;=229f minus;=2212 middot;=b7
middot=b7 midcir;=2af0 midast;=2a mid;=2223 micro;=b5 micro=b5 mho;=2127 mfr;=1d52a
measuredangle;=2221 mdash;=2014 mcy;=43c mcomma;=2a29 marker;=25ae mapstoup;=21a5 mapstoleft;=21a4
mapstodown;=21a7 mapsto;=21a6 map;=21a6 maltese;=2720 malt;=2720 male;=2642 macr;=af macr=af
mDDot;=223a lvnE;=2268.fe00 lvertneqq;=2268.fe00 luruhar;=2966 lurdshar;=294a ltrif;=25c2
ltrie;=22b4 ltri;=25c3 ltrPar;=2996 ltquest;=2a7b ltlarr;=2976 ltimes;=22c9 lthree;=22cb
ltdot;=22d6 ltcir;=2a79 ltcc;=2aa6 lt;=3c lt=3c lstrok;=142 lsquor;=201a lsquo;=2018 lsqb;=5b
lsimg;=2a8f lsime;=2a8d lsim;=2272 lsh;=21b0 lscr;=1d4c1 lsaquo;=2039 lrtri;=22bf lrm;=200e
lrhard;=296d lrhar;=21cb lrcorner;=231f lrarr;=21c6 lparlt;=2993 lpar;=28 lozf;=29eb lozenge;=25ca
loz;=25ca lowbar;=5f lowast;=2217 lotimes;=2a34 loplus;=2a2d lopf;=1d55d lopar;=2985
looparrowright;=21ac looparrowleft;=21ab longrightarrow;=27f6 longmapsto;=27fc
longleftrightarrow;=27f7 longleftarrow;=27f5 lobrk;=27e6 loarr;=21fd loang;=27ec lnsim;=22e6
lneqq;=2268 lneq;=2a87 lne;=2a87 lnapprox;=2a89 lnap;=2a89 lnE;=2268 lmoustache;=23b0 lmoust;=23b0
lmidot;=140 lltri;=25fa llhard;=296b llcorner;=231e llarr;=21c7 ll;=226a ljcy;=459 lhblk;=2584
lharul;=296a lharu;=21bc lhard;=21bd lgE;=2a91 lg;=2276 lfr;=1d529 lfloor;=230a lfisht;=297c
lesssim;=2272 lessgtr;=2276 lesseqqgtr;=2a8b lesseqgtr;=22da lessdot;=22d6 lessapprox;=2a85
lesges;=2a93 lesg;=22da.fe00 lesdotor;=2a83 lesdoto;=2a81 lesdot;=2a7f lescc;=2aa8 les;=2a7d
leqslant;=2a7d leqq;=2266 leq;=2264 leg;=22da leftthreetimes;=22cb leftrightsquigarrow;=21ad
leftrightharpoons;=21cb leftrightarrows;=21c6 leftrightarrow;=2194 leftleftarrows;=21c7
leftharpoonup;=21bc leftharpoondown;=21bd leftarrowtail;=21a2 leftarrow;=2190 le;=2264 ldsh;=21b2
ldrushar;=294b ldrdhar;=2967 ldquor;=201e ldquo;=201c ldca;=2936 lcy;=43b lcub;=7b lceil;=2308
lcedil;=13c lcaron;=13e lbrkslu;=298d lbrksld;=298f lbrke;=298b lbrack;=5b lbrace;=7b lbbrk;=2772
lbarr;=290c lates;=2aad.fe00 late;=2aad latail;=2919 lat;=2aab larrtl;=21a2 larrsim;=2973
larrpl;=2939 larrlp;=21ab larrhk;=21a9 larrfs;=291d larrbfs;=291f larrb;=21e4 larr;=2190 laquo;=ab
laquo=ab lap;=2a85 langle;=27e8 langd;=2991 lang;=27e8 lambda;=3bb lagran;=2112 laemptyv;=29b4
lacute;=13a lHar;=2962 lEg;=2a8b lE;=2266 lBarr;=290e lAtail;=291b lArr;=21d0 lAarr;=21da
kscr;=1d4c0 kopf;=1d55c kjcy;=45c khcy;=445 kgreen;=138 kfr;=1d528 kcy;=43a kcedil;=137
kappav;=3f0 kappa;=3ba jukcy;=454 jsercy;=458 jscr;=1d4bf jopf;=1d55b jmath;=237 jfr;=1d527
jcy;=439 jcirc;=135 iuml;=ef iuml=ef iukcy;=456 itilde;=129 it;=2062 isinv;=2208 isinsv;=22f3
isins;=22f4 isindot;=22f5 isinE;=22f9 isin;=2208 iscr;=1d4be iquest;=bf iquest=bf iprod;=2a3c
iota;=3b9 iopf;=1d55a iogon;=12f iocy;=451 intprod;=2a3c intlarhk;=2a17 intercal;=22ba
integers;=2124 intcal;=22ba int;=222b inodot;=131 infintie;=29dd infin;=221e incare;=2105 in;=2208
imped;=1b5 imof;=22b7 imath;=131 imagpart;=2111 imagline;=2110 image;=2111 imacr;=12b ijlig;=133
iiota;=2129 iinfin;=29dc iiint;=222d iiiint;=2a0c ii;=2148 igrave;=ec igrave=ec ifr;=1d526
iff;=21d4 iexcl;=a1 iexcl=a1 iecy;=435 icy;=438 icirc;=ee icirc=ee ic;=2063 iacute;=ed iacute=ed
hyphen;=2010 hybull;=2043 hstrok;=127 hslash;=210f hscr;=1d4bd horbar;=2015 hopf;=1d559
hookrightarrow;=21aa hookleftarrow;=21a9 homtht;=223b hoarr;=21ff hkswarow;=2926 hksearow;=2925
hfr;=1d525 hercon;=22b9 hellip;=2026 heartsuit;=2665 hearts;=2665 hcirc;=125 hbar;=210f
harrw;=21ad harrcir;=2948 harr;=2194 hardcy;=44a hamilt;=210b half;=bd hairsp;=200a hArr;=21d4
gvnE;=2269.fe00 gvertneqq;=2269.fe00 gtrsim;=2273 gtrless;=2277 gtreqqless;=2a8c gtreqless;=22db
gtrdot;=22d7 gtrarr;=2978 gtrapprox;=2a86 gtquest;=2a7c gtlPar;=2995 gtdot;=22d7 gtcir;=2a7a
gtcc;=2aa7 gt;=3e gt=3e gsiml;=2a90 gsime;=2a8e gsim;=2273 gscr;=210a grave;=60 gopf;=1d558
gnsim;=22e7 gneqq;=2269 gneq;=2a88 gne;=2a88 gnapprox;=2a8a gnap;=2a8a gnE;=2269 glj;=2aa4
gla;=2aa5 glE;=2a92 gl;=2277 gjcy;=453 gimel;=2137 ggg;=22d9 gg;=226b gfr;=1d524 gesles;=2a94
gesl;=22db.fe00 gesdotol;=2a84 gesdoto;=2a82 gesdot;=2a80 gescc;=2aa9 ges;=2a7e geqslant;=2a7e
geqq;=2267 geq;=2265 gel;=22db ge;=2265 gdot;=121 gcy;=433 gcirc;=11d gbreve;=11f gap;=2a86
gammad;=3dd gamma;=3b3 gacute;=1f5 gEl;=2a8c gE;=2267 fscr;=1d4bb frown;=2322 frasl;=2044
frac78;=215e frac58;=215d frac56;=215a frac45;=2158 frac38;=215c frac35;=2157 frac34;=be frac34=be
frac25;=2156 frac23;=2154 frac18;=215b frac16;=2159 frac15;=2155 frac14;=bc frac14=bc frac13;=2153
frac12;=bd frac12=bd fpartint;=2a0d forkv;=2ad9 fork;=22d4 forall;=2200 fopf;=1d557 fnof;=192
fltns;=25b1 fllig;=fb02 flat;=266d fjlig;=66.6a filig;=fb01 ffr;=1d523 ffllig;=fb04 fflig;=fb00
ffilig;=fb03 female;=2640 fcy;=444 fallingdotseq;=2252 exponentiale;=2147 expectation;=2130
exist;=2203 excl;=21 euro;=20ac euml;=eb euml=eb eth;=f0 eth=f0 eta;=3b7 esim;=2242 esdot;=2250
escr;=212f erarr;=2971 erDot;=2253 eqvparsl;=29e5 equivDD;=2a78 equiv;=2261 equest;=225f
equals;=3d eqslantless;=2a95 eqslantgtr;=2a96 eqsim;=2242 eqcolon;=2255 eqcirc;=2256 epsiv;=3f5
epsilon;=3b5 epsi;=3b5 eplus;=2a71 eparsl;=29e3 epar;=22d5 eopf;=1d556 eogon;=119 ensp;=2002
eng;=14b emsp;=2003 emsp14;=2005 emsp13;=2004 emptyv;=2205 emptyset;=2205 empty;=2205 emacr;=113
elsdot;=2a97 els;=2a95 ell;=2113 elinters;=23e7 el;=2a99 egsdot;=2a98 egs;=2a96 egrave;=e8
egrave=e8 eg;=2a9a efr;=1d522 efDot;=2252 ee;=2147 edot;=117 ecy;=44d ecolon;=2255 ecirc;=ea
ecirc=ea ecir;=2256 ecaron;=11b easter;=2a6e eacute;=e9 eacute=e9 eDot;=2251 eDDot;=2a77
dzigrarr;=27ff dzcy;=45f dwangle;=29a6 duhar;=296f duarr;=21f5 dtrif;=25be dtri;=25bf dtdot;=22f1
dstrok;=111 dsol;=29f6 dscy;=455 dscr;=1d4b9 drcrop;=230c drcorn;=231f drbkarow;=2910
downharpoonright;=21c2 downharpoonleft;=21c3 downdownarrows;=21ca downarrow;=2193
doublebarwedge;=2306 dotsquare;=22a1 dotplus;=2214 dotminus;=2238 doteqdot;=2251 doteq;=2250
dot;=2d9 dopf;=1d555 dollar;=24 dlcrop;=230d dlcorn;=231e djcy;=452 divonx;=22c7
divideontimes;=22c7 divide;=f7 divide=f7 div;=f7 disin;=22f2 digamma;=3dd die;=a8 diams;=2666
diamondsuit;=2666 diamond;=22c4 diam;=22c4 dharr;=21c2 dharl;=21c3 dfr;=1d521 dfisht;=297f
demptyv;=29b1 delta;=3b4 deg;=b0 deg=b0 ddotseq;=2a77 ddarr;=21ca ddagger;=2021 dd;=2146 dcy;=434
dcaron;=10f dblac;=2dd dbkarow;=290f dashv;=22a3 dash;=2010 darr;=2193 daleth;=2138 dagger;=2020
dHar;=2965 dArr;=21d3 cylcty;=232d cwint;=2231 cwconint;=2232 cuwed;=22cf cuvee;=22ce
curvearrowright;=21b7 curvearrowleft;=21b6 curren;=a4 curren=a4 curlywedge;=22cf curlyvee;=22ce
curlyeqsucc;=22df curlyeqprec;=22de curarrm;=293c curarr;=21b7 cups;=222a.fe00 cupor;=2a45
cupdot;=228d cupcup;=2a4a cupcap;=2a46 cupbrcap;=2a48 cup;=222a cularrp;=293d cularr;=21b6
cuesc;=22df cuepr;=22de cudarrr;=2935 cudarrl;=2938 ctdot;=22ef csupe;=2ad2 csup;=2ad0 csube;=2ad1
csub;=2acf cscr;=1d4b8 cross;=2717 crarr;=21b5 copysr;=2117 copy;=a9 copy=a9 coprod;=2210
copf;=1d554 conint;=222e congdot;=2a6d cong;=2245 complexes;=2102 complement;=2201 compfn;=2218
comp;=2201 commat;=40 comma;=2c coloneq;=2254 colone;=2254 colon;=3a clubsuit;=2663 clubs;=2663
cirscir;=29c2 cirmid;=2aef cirfnint;=2a10 cire;=2257 circleddash;=229d circledcirc;=229a
circledast;=229b circledS;=24c8 circledR;=ae circlearrowright;=21bb circlearrowleft;=21ba
circeq;=2257 circ;=2c6 cirE;=29c3 cir;=25cb chi;=3c7 checkmark;=2713 check;=2713 chcy;=447
cfr;=1d520 centerdot;=b7 cent;=a2 cent=a2 cemptyv;=29b2 cedil;=b8 cedil=b8 cdot;=10b ccupssm;=2a50
ccups;=2a4c ccirc;=109 ccedil;=e7 ccedil=e7 ccaron;=10d ccaps;=2a4d caron;=2c7 caret;=2041
caps;=2229.fe00 capdot;=2a40 capcup;=2a47 capcap;=2a4b capbrcup;=2a49 capand;=2a44 cap;=2229
cacute;=107 bumpeq;=224f bumpe;=224f bumpE;=2aae bump;=224e bullet;=2022 bull;=2022 bsolhsub;=27c8
bsolb;=29c5 bsol;=5c bsime;=22cd bsim;=223d bsemi;=204f bscr;=1d4b7 brvbar;=a6 brvbar=a6
breve;=2d8 bprime;=2035 boxvr;=251c boxvl;=2524 boxvh;=253c boxvR;=255e boxvL;=2561 boxvH;=256a
boxv;=2502 boxur;=2514 boxul;=2518 boxuR;=2558 boxuL;=255b boxtimes;=22a0 boxplus;=229e
boxminus;=229f boxhu;=2534 boxhd;=252c boxhU;=2568 boxhD;=2565 boxh;=2500 boxdr;=250c boxdl;=2510
boxdR;=2552 boxdL;=2555 boxbox;=29c9 boxVr;=255f boxVl;=2562 boxVh;=256b boxVR;=2560 boxVL;=2563
boxVH;=256c boxV;=2551 boxUr;=2559 boxUl;=255c boxUR;=255a boxUL;=255d boxHu;=2567 boxHd;=2564
boxHU;=2569 boxHD;=2566 boxH;=2550 boxDr;=2553 boxDl;=2556 boxDR;=2554 boxDL;=2557 bowtie;=22c8
bottom;=22a5 bot;=22a5 bopf;=1d553 bnot;=2310 bnequiv;=2261.20e5 bne;=3d.20e5 block;=2588
blk34;=2593 blk14;=2591 blk12;=2592 blank;=2423 blacktriangleright;=25b8 blacktriangleleft;=25c2
blacktriangledown;=25be blacktriangle;=25b4 blacksquare;=25aa blacklozenge;=29eb bkarow;=290d
bigwedge;=22c0 bigvee;=22c1 biguplus;=2a04 bigtriangleup;=25b3 bigtriangledown;=25bd bigstar;=2605
bigsqcup;=2a06 bigotimes;=2a02 bigoplus;=2a01 bigodot;=2a00 bigcup;=22c3 bigcirc;=25ef
bigcap;=22c2 bfr;=1d51f between;=226c beth;=2136 beta;=3b2 bernou;=212c bepsi;=3f6 bemptyv;=29b0
because;=2235 becaus;=2235 bdquo;=201e bcy;=431 bcong;=224c bbrktbrk;=23b6 bbrk;=23b5
barwedge;=2305 barwed;=2305 barvee;=22bd backsimeq;=22cd backsim;=223d backprime;=2035
backepsilon;=3f6 backcong;=224c bNot;=2aed awint;=2a11 awconint;=2233 auml;=e4 auml=e4 atilde;=e3
atilde=e3 asympeq;=224d asymp;=2248 ast;=2a ascr;=1d4b6 aring;=e5 aring=e5 approxeq;=224a
approx;=2248 apos;=27 apid;=224b ape;=224a apacir;=2a6f apE;=2a70 ap;=2248 aopf;=1d552 aogon;=105
angzarr;=237c angst;=c5 angsph;=2222 angrtvbd;=299d angrtvb;=22be angrt;=221f angmsdah;=29af
angmsdag;=29ae angmsdaf;=29ad angmsdae;=29ac angmsdad;=29ab angmsdac;=29aa angmsdab;=29a9
angmsdaa;=29a8 angmsd;=2221 angle;=2220 ange;=29a4 ang;=2220 andv;=2a5a andslope;=2a58 andd;=2a5c
andand;=2a55 and;=2227 amp;=26 amp=26 amalg;=2a3f amacr;=101 alpha;=3b1 aleph;=2135 alefsym;=2135
agrave;=e0 agrave=e0 afr;=1d51e af;=2061 aelig;=e6 aelig=e6 acy;=430 acute;=b4 acute=b4 acirc;=e2
acirc=e2 acd;=223f acE;=223e.333 ac;=223e abreve;=103 aacute;=e1 aacute=e1 Zscr;=1d4b5 Zopf;=2124
Zfr;=2128 Zeta;=396 ZeroWidthSpace;=200b Zdot;=17b Zcy;=417 Zcaron;=17d Zacute;=179 ZHcy;=416
Yuml;=178 Yscr;=1d4b4 Yopf;=1d550 Yfr;=1d51c Ycy;=42b Ycirc;=176 Yacute;=dd Yacute=dd YUcy;=42e
YIcy;=407 YAcy;=42f Xscr;=1d4b3 Xopf;=1d54f Xi;=39e Xfr;=1d51b Wscr;=1d4b2 Wopf;=1d54e Wfr;=1d51a
Wedge;=22c0 Wcirc;=174 Vvdash;=22aa Vscr;=1d4b1 Vopf;=1d54d Vfr;=1d519 VeryThinSpace;=200a
VerticalTilde;=2240 VerticalSeparator;=2758 VerticalLine;=7c VerticalBar;=2223 Vert;=2016
Verbar;=2016 Vee;=22c1 Vdashl;=2ae6 Vdash;=22a9 Vcy;=412 Vbar;=2aeb VDash;=22ab Uuml;=dc Uuml=dc
Utilde;=168 Uscr;=1d4b0 Uring;=16e Upsilon;=3a5 Upsi;=3d2 UpperRightArrow;=2197
UpperLeftArrow;=2196 Updownarrow;=21d5 Uparrow;=21d1 UpTeeArrow;=21a5 UpTee;=22a5
UpEquilibrium;=296e UpDownArrow;=2195 UpArrowDownArrow;=21c5 UpArrowBar;=2912 UpArrow;=2191
Uopf;=1d54c Uogon;=172 UnionPlus;=228e Union;=22c3 UnderParenthesis;=23dd UnderBracket;=23b5
UnderBrace;=23df UnderBar;=5f Umacr;=16a Ugrave;=d9 Ugrave=d9 Ufr;=1d518 Udblac;=170 Ucy;=423
Ucirc;=db Ucirc=db Ubreve;=16c Ubrcy;=40e Uarrocir;=2949 Uarr;=219f Uacute;=da Uacute=da
Tstrok;=166 Tscr;=1d4af TripleDot;=20db Topf;=1d54b TildeTilde;=2248 TildeFullEqual;=2245
TildeEqual;=2243 Tilde;=223c ThinSpace;=2009 ThickSpace;=205f.200a Theta;=398 Therefore;=2234
Tfr;=1d517 Tcy;=422 Tcedil;=162 Tcaron;=164 Tau;=3a4 Tab;=9 TScy;=426 TSHcy;=40b TRADE;=2122
THORN;=de THORN=de Supset;=22d1 SupersetEqual;=2287 Superset;=2283 Sup;=22d1 Sum;=2211
SuchThat;=220b SucceedsTilde;=227f SucceedsSlantEqual;=227d SucceedsEqual;=2ab0 Succeeds;=227b
SubsetEqual;=2286 Subset;=22d0 Sub;=22d0 Star;=22c6 Sscr;=1d4ae SquareUnion;=2294
SquareSupersetEqual;=2292 SquareSuperset;=2290 SquareSubsetEqual;=2291 SquareSubset;=228f
SquareIntersection;=2293 Square;=25a1 Sqrt;=221a Sopf;=1d54a SmallCircle;=2218 Sigma;=3a3
ShortUpArrow;=2191 ShortRightArrow;=2192 ShortLeftArrow;=2190 ShortDownArrow;=2193 Sfr;=1d516
Scy;=421 Scirc;=15c Scedil;=15e Scaron;=160 Sc;=2abc Sacute;=15a SOFTcy;=42c SHcy;=428 SHCHcy;=429
RuleDelayed;=29f4 Rsh;=21b1 Rscr;=211b Rrightarrow;=21db RoundImplies;=2970 Ropf;=211d
Rightarrow;=21d2 RightVectorBar;=2953 RightVector;=21c0 RightUpVectorBar;=2954 RightUpVector;=21be
RightUpTeeVector;=295c RightUpDownVector;=294f RightTriangleEqual;=22b5 RightTriangleBar;=29d0
RightTriangle;=22b3 RightTeeVector;=295b RightTeeArrow;=21a6 RightTee;=22a2 RightFloor;=230b
RightDownVectorBar;=2955 RightDownVector;=21c2 RightDownTeeVector;=295d RightDoubleBracket;=27e7
RightCeiling;=2309 RightArrowLeftArrow;=21c4 RightArrowBar;=21e5 RightArrow;=2192
RightAngleBracket;=27e9 Rho;=3a1 Rfr;=211c ReverseUpEquilibrium;=296f ReverseEquilibrium;=21cb
ReverseElement;=220b Re;=211c Rcy;=420 Rcedil;=156 Rcaron;=158 Rarrtl;=2916 Rarr;=21a0 Rang;=27eb
Racute;=154 REG;=ae REG=ae RBarr;=2910 Qscr;=1d4ac Qopf;=211a Qfr;=1d514 QUOT;=22 QUOT=22 Psi;=3a8
Pscr;=1d4ab Proportional;=221d Proportion;=2237 Product;=220f Prime;=2033 PrecedesTilde;=227e
PrecedesSlantEqual;=227c PrecedesEqual;=2aaf Precedes;=227a Pr;=2abb Popf;=2119
Poincareplane;=210c PlusMinus;=b1 Pi;=3a0 Phi;=3a6 Pfr;=1d513 Pcy;=41f PartialD;=2202
OverParenthesis;=23dc OverBracket;=23b4 OverBrace;=23de OverBar;=203e Ouml;=d6 Ouml=d6
Otimes;=2a37 Otilde;=d5 Otilde=d5 Oslash;=d8 Oslash=d8 Oscr;=1d4aa Or;=2a54 OpenCurlyQuote;=2018
OpenCurlyDoubleQuote;=201c Oopf;=1d546 Omicron;=39f Omega;=3a9 Omacr;=14c Ograve;=d2 Ograve=d2
Ofr;=1d512 Odblac;=150 Ocy;=41e Ocirc;=d4 Ocirc=d4 Oacute;=d3 Oacute=d3 OElig;=152 Nu;=39d
Ntilde;=d1 Ntilde=d1 Nscr;=1d4a9 NotVerticalBar;=2224 NotTildeTilde;=2249 NotTildeFullEqual;=2247
NotTildeEqual;=2244 NotTilde;=2241 NotSupersetEqual;=2289 NotSuperset;=2283.20d2
NotSucceedsTilde;=227f.338 NotSucceedsSlantEqual;=22e1 NotSucceedsEqual;=2ab0.338
NotSucceeds;=2281 NotSubsetEqual;=2288 NotSubset;=2282.20d2 NotSquareSupersetEqual;=22e3
NotSquareSuperset;=2290.338 NotSquareSubsetEqual;=22e2 NotSquareSubset;=228f.338
NotRightTriangleEqual;=22ed NotRightTriangleBar;=29d0.338 NotRightTriangle;=22eb
NotReverseElement;=220c NotPrecedesSlantEqual;=22e0 NotPrecedesEqual;=2aaf.338 NotPrecedes;=2280
NotNestedLessLess;=2aa1.338 NotNestedGreaterGreater;=2aa2.338 NotLessTilde;=2274
NotLessSlantEqual;=2a7d.338 NotLessLess;=226a.338 NotLessGreater;=2278 NotLessEqual;=2270
NotLess;=226e NotLeftTriangleEqual;=22ec NotLeftTriangleBar;=29cf.338 NotLeftTriangle;=22ea
NotHumpEqual;=224f.338 NotHumpDownHump;=224e.338 NotGreaterTilde;=2275
NotGreaterSlantEqual;=2a7e.338 NotGreaterLess;=2279 NotGreaterGreater;=226b.338
NotGreaterFullEqual;=2267.338 NotGreaterEqual;=2271 NotGreater;=226f NotExists;=2204
NotEqualTilde;=2242.338 NotEqual;=2260 NotElement;=2209 NotDoubleVerticalBar;=2226 NotCupCap;=226d
NotCongruent;=2262 Not;=2aec Nopf;=2115 NonBreakingSpace;=a0 NoBreak;=2060 Nfr;=1d511 NewLine;=a
NestedLessLess;=226a NestedGreaterGreater;=226b NegativeVeryThinSpace;=200b
NegativeThinSpace;=200b NegativeThickSpace;=200b NegativeMediumSpace;=200b Ncy;=41d Ncedil;=145
Ncaron;=147 Nacute;=143 NJcy;=40a Mu;=39c Mscr;=2133 Mopf;=1d544 MinusPlus;=2213 Mfr;=1d510
Mellintrf;=2133 MediumSpace;=205f Mcy;=41c Map;=2905 Lt;=226a Lstrok;=141 Lsh;=21b0 Lscr;=2112
LowerRightArrow;=2198 LowerLeftArrow;=2199 Lopf;=1d543 Longrightarrow;=27f9
Longleftrightarrow;=27fa Longleftarrow;=27f8 LongRightArrow;=27f6 LongLeftRightArrow;=27f7
LongLeftArrow;=27f5 Lmidot;=13f Lleftarrow;=21da Ll;=22d8 Lfr;=1d50f LessTilde;=2272
LessSlantEqual;=2a7d LessLess;=2aa1 LessGreater;=2276 LessFullEqual;=2266 LessEqualGreater;=22da
Leftrightarrow;=21d4 Leftarrow;=21d0 LeftVectorBar;=2952 LeftVector;=21bc LeftUpVectorBar;=2958
LeftUpVector;=21bf LeftUpTeeVector;=2960 LeftUpDownVector;=2951 LeftTriangleEqual;=22b4
LeftTriangleBar;=29cf LeftTriangle;=22b2 LeftTeeVector;=295a LeftTeeArrow;=21a4 LeftTee;=22a3
LeftRightVector;=294e LeftRightArrow;=2194 LeftFloor;=230a LeftDownVectorBar;=2959
LeftDownVector;=21c3 LeftDownTeeVector;=2961 LeftDoubleBracket;=27e6 LeftCeiling;=2308
LeftArrowRightArrow;=21c6 LeftArrowBar;=21e4 LeftArrow;=2190 LeftAngleBracket;=27e8 Lcy;=41b
Lcedil;=13b Lcaron;=13d Larr;=219e Laplacetrf;=2112 Lang;=27ea Lambda;=39b Lacute;=139 LT;=3c
LT=3c LJcy;=409 Kscr;=1d4a6 Kopf;=1d542 Kfr;=1d50e Kcy;=41a Kcedil;=136 Kappa;=39a KJcy;=40c
KHcy;=425 Jukcy;=404 Jsercy;=408 Jscr;=1d4a5 Jopf;=1d541 Jfr;=1d50d Jcy;=419 Jcirc;=134 Iuml;=cf
Iuml=cf Iukcy;=406 Itilde;=128 Iscr;=2110 Iota;=399 Iopf;=1d540 Iogon;=12e InvisibleTimes;=2062
InvisibleComma;=2063 Intersection;=22c2 Integral;=222b Int;=222c Implies;=21d2 ImaginaryI;=2148
Imacr;=12a Im;=2111 Igrave;=cc Igrave=cc Ifr;=2111 Idot;=130 Icy;=418 Icirc;=ce Icirc=ce
Iacute;=cd Iacute=cd IOcy;=401 IJlig;=132 IEcy;=415 HumpEqual;=224f HumpDownHump;=224e Hstrok;=126
Hscr;=210b HorizontalLine;=2500 Hopf;=210d HilbertSpace;=210b Hfr;=210c Hcirc;=124 Hat;=5e
Hacek;=2c7 HARDcy;=42a Gt;=226b Gscr;=1d4a2 GreaterTilde;=2273 GreaterSlantEqual;=2a7e
GreaterLess;=2277 GreaterGreater;=2aa2 GreaterFullEqual;=2267 GreaterEqualLess;=22db
GreaterEqual;=2265 Gopf;=1d53e Gg;=22d9 Gfr;=1d50a Gdot;=120 Gcy;=413 Gcirc;=11c Gcedil;=122
Gbreve;=11e Gammad;=3dc Gamma;=393 GT;=3e GT=3e GJcy;=403 Fscr;=2131 Fouriertrf;=2131 ForAll;=2200
Fopf;=1d53d FilledVerySmallSquare;=25aa FilledSmallSquare;=25fc Ffr;=1d509 Fcy;=424
ExponentialE;=2147 Exists;=2203 Euml;=cb Euml=cb Eta;=397 Esim;=2a73 Escr;=2130 Equilibrium;=21cc
EqualTilde;=2242 Equal;=2a75 Epsilon;=395 Eopf;=1d53c Eogon;=118 EmptyVerySmallSquare;=25ab
EmptySmallSquare;=25fb Emacr;=112 Element;=2208 Egrave;=c8 Egrave=c8 Efr;=1d508 Edot;=116 Ecy;=42d
Ecirc;=ca Ecirc=ca Ecaron;=11a Eacute;=c9 Eacute=c9 ETH;=d0 ETH=d0 ENG;=14a Dstrok;=110
Dscr;=1d49f Downarrow;=21d3 DownTeeArrow;=21a7 DownTee;=22a4 DownRightVectorBar;=2957
DownRightVector;=21c1 DownRightTeeVector;=295f DownLeftVectorBar;=2956 DownLeftVector;=21bd
DownLeftTeeVector;=295e DownLeftRightVector;=2950 DownBreve;=311 DownArrowUpArrow;=21f5
DownArrowBar;=2913 DownArrow;=2193 DoubleVerticalBar;=2225 DoubleUpDownArrow;=21d5
DoubleUpArrow;=21d1 DoubleRightTee;=22a8 DoubleRightArrow;=21d2 DoubleLongRightArrow;=27f9
DoubleLongLeftRightArrow;=27fa DoubleLongLeftArrow;=27f8 DoubleLeftTee;=2ae4
DoubleLeftRightArrow;=21d4 DoubleLeftArrow;=21d0 DoubleDownArrow;=21d3 DoubleDot;=a8
DoubleContourIntegral;=222f DotEqual;=2250 DotDot;=20dc Dot;=a8 Dopf;=1d53b DifferentialD;=2146
Diamond;=22c4 DiacriticalTilde;=2dc DiacriticalGrave;=60 DiacriticalDoubleAcute;=2dd
DiacriticalDot;=2d9 DiacriticalAcute;=b4 Dfr;=1d507 Delta;=394 Del;=2207 Dcy;=414 Dcaron;=10e
Dashv;=2ae4 Darr;=21a1 Dagger;=2021 DZcy;=40f DScy;=405 DJcy;=402 DDotrahd;=2911 DD;=2145
CupCap;=224d Cup;=22d3 Cscr;=1d49e Cross;=2a2f CounterClockwiseContourIntegral;=2233
Coproduct;=2210 Copf;=2102 ContourIntegral;=222e Conint;=222f Congruent;=2261 Colone;=2a74
Colon;=2237 CloseCurlyQuote;=2019 CloseCurlyDoubleQuote;=201d ClockwiseContourIntegral;=2232
CircleTimes;=2297 CirclePlus;=2295 CircleMinus;=2296 CircleDot;=2299 Chi;=3a7 Cfr;=212d
CenterDot;=b7 Cedilla;=b8 Cdot;=10a Cconint;=2230 Ccirc;=108 Ccedil;=c7 Ccedil=c7 Ccaron;=10c
Cayleys;=212d CapitalDifferentialD;=2145 Cap;=22d2 Cacute;=106 COPY;=a9 COPY=a9 CHcy;=427
Bumpeq;=224e Bscr;=212c Breve;=2d8 Bopf;=1d539 Bfr;=1d505 Beta;=392 Bernoullis;=212c Because;=2235
Bcy;=411 Barwed;=2306 Barv;=2ae7 Backslash;=2216 Auml;=c4 Auml=c4 Atilde;=c3 Atilde=c3
Assign;=2254 Ascr;=1d49c Aring;=c5 Aring=c5 ApplyFunction;=2061 Aopf;=1d538 Aogon;=104 And;=2a53
Amacr;=100 Alpha;=391 Agrave;=c0 Agrave=c0 Afr;=1d504 Acy;=410 Acirc;=c2 Acirc=c2 Abreve;=102
Aacute;=c1 Aacute=c1 AMP;=26 AMP=26 AElig;=c6 AElig=c6
"

def referenceOfPiece? (piece : List Char) : Option (List Char × List Char) :=
  match splitOn (· == '=') piece with
  | [name, codes] =>
    some (name, (splitOn (· == '.') codes).filterMap fun code => (number? 16 code).bind character?)
  | _ => none

def references : List (List Char × List Char) :=
  (splitOn isXmlBlank referenceNames.toList).filterMap referenceOfPiece?

end IssueFeed.Html
