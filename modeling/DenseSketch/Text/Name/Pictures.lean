/-!
# Names of characters: music, mathematics, games and pictures

A table in the short form that `Text.Name` reads.  Data of the Unicode character database, version
14.
-/

namespace DenseSketch.Text.Name

/-- The names from U+1D000 on. -/
def pictures : List String :=
  [
    "@1D000 0:BYZANTINE mr au dx;DASEIA;bz;OXEIA uc;DIPLI;3:VAREIA uc;DIPLI;3:KATHISTI;SYRMATIKI",
    "PARAKLITIKI;YPOKRISIS;4:DIPLI;3:KREMASTI;APESO uc;3:EXO uc;3:TELEIA;vo;APOSTROFOS;4:DIPLI",
    "3:SYNEVMA;THITA;OLIGON hp;3:GORGON hp;3:PSILON;CHAMILON;VATHY;ISON hp;3:KENTIMA hp;3:vo hp",
    "3:SAXIMATA;PARICHON;STAVROS APODEXIA;3:OXEIAI hp;3:VAREIAI hp;3:APODERMA hp;3:APOTHEMA;KLASMA",
    "REVMA;PIASMA hp;3:TINAGMA;ANATRICHISMA;SEISMA;SYNAGMA hp;META STAVROU;3:OYRANISMA hp;3:THEMA",
    "LEMOI;DYO;TRIA;TESSERA;KRATIMATA;APESO EXO NEO;3:FTHORA hp;3:IMIFTHORA;TROMIKON hp",
    "3:KATAVA TROMIKON;3:PELASTON;PSIFISTON;KONTEVMA;CHOREVMA hp;3:RAPISMA;PARAKALESMA hp",
    "3:PARAKLITIKI hp;3:ICHADIN;NANA;PETASMA;KONTEVMA ALLO;3:TROMIKON ALLO;3:STRAGGISMATA",
    "GRONTHISMATA;ISON NEO;3:OLIGON NEO;3:OXEIA NEO;3:PETASTI;KOUFISMA;PETASTOKOUFISMA",
    "KRATIMOKOUFISMA;PELASTON NEO;3:vo NEO ANO;3:KENTIMA NEO ANO;3:YPSILI;APOSTROFOS NEO",
    "3:APOSTROFOI SYNDESMOS NEO;3:YPORROI;KRATIMOYPORROON;ELAFRON;CHAMILI;MIKRON ISON;3:VAREIA NEO",
    "3:PIASMA NEO;3:PSIFISTON NEO;3:OMALON;ANTIKENOMA;LYGISMA;PARAKLITIKI NEO;3:PARAKALESMA NEO",
    "3:ETERON PARAKALESMA;3:KYLISMA;ANTIKENOKYLISMA;TROMIKON NEO;3:EKSTREPTON;SYNAGMA NEO;3:SYRMA",
    "CHOREVMA NEO;3:EPEGERMA;SEISMA NEO;3:XIRON KLASMA;3:TROMIKOPSIFISTON;PSIFISTOLYGISMA",
    "TROMIKOLYGISMA;TROMIKOPARAKALESMA;PSIFISTOPARAKALESMA;TROMIKOSYNAGMA;PSIFISTOSYNAGMA",
    "GORGOSYNTHETON;ARGOSYNTHETON;ETERON ARGOSYNTHETON;3:OYRANISMA NEO;3:THEMATISMOS ESO;EXO",
    "3:THEMA APLOUN;3:THES KAI APOTHES;3:KATAVASMA;ENDOFONON;YFEN KATO;ANO;3:STAVROS;KLASMA ANO",
    "3:DIPLI hp;3:KRATIMA hp;ALLO;NEO;3:APODERMA NEO;3:APLI;DIPLI;TRIPLI;TETRAPLI;KORONIS",
    "LEIMMA ENOS CHRONOU;4:DYO CHRONON;4:TRION CHRONON;4:TESSARON CHRONON;4:IMISEOS CHRONOU",
    "3:GORGON NEO ANO;4:PARESTIGMENON ARISTERA;DEXIA;3:DIGORGON;4:PARESTIGMENON ARISTERA KATO;ANO",
    "5:DEXIA;3:TRIGORGON;ARGON;IMIDIARGON;DIARGON;AGOGI POLI ARGI;4:ARGOTERI;ARGI;METRIA;MESI",
    "GORGI;GORGOTERI;POLI GORGI;3:MARTYRIA PROTOS ti;4:ALLI PROTOS ti;4:DEYTEROS ti",
    "4:ALLI DEYTEROS ti;4:TRITOS ti;4:TRIFONIAS;TETARTOS ti;LEGETOS ti;4:LEGETOS ti;4:PLAGIOS ti",
    "3:ISAKIA TELOUS ICHIMATOS;3:APOSTROFOI TELOUS ICHIMATOS;3:FANEROSIS TETRAFONIAS;MONOFONIAS",
    "DIFONIAS;3:MARTYRIA VARYS ti;4:PROTOVARYS ti;4:PLAGIOS TETARTOS ti;3:GORTHMIKON N APLOUN",
    "DIPLOUN;3:ENARXIS KAI FTHORA VOU;3:IMIFONON;IMIFTHORON;FTHORA hp DEYTEROU ICHOU",
    "4:DIATONIKI PA;NANA;4:NAOS ti;4:DIATONIKI DI;4:SKLIRON DIATONON DI;4:DIATONIKI KE;ZO;NI KATO",
    "ANO;4:MALAKON CHROMA DIFONIAS;MONOFONIAS;3:FHTORA SKLIRON CHROMA VASIS",
    "3:FTHORA SKLIRON CHROMA SYNAFI;4:NENANO;3:CHROA ZYGOS;KLITON;SPATHI",
    "3:FTHORA I YFESIS TETARTIMORION;4:ENARMONIOS ANTIFONIA;3:YFESIS TRITIMORION",
    "3:DIESIS TRITIMORION;TETARTIMORION;APLI DYO pq;4:MONOGRAMMOS TESSERA pq;4:DIGRAMMOS EX pq",
    "4:TRIGRAMMOS OKTO pq;3:YFESIS APLI DYO pq;4:MONOGRAMMOS TESSERA pq;4:DIGRAMMOS EX pq",
    "4:TRIGRAMMOS OKTO pq;3:GENIKI DIESIS;YFESIS;3:DIASTOLI APLI MIKRI;MEGALI;4:DIPLI;THESEOS",
    "3:SIMANSIS THESEOS;5:DISIMOU;TRISIMOU;TETRASIMOU;4:ARSEOS;5:DISIMOU;TRISIMOU;TETRASIMOU",
    "3:DIGRAMMA GG;3:DIFTOGGOS OU;3:STIGMA;ARKTIKO PA;VOU;GA;DI;KE;ZO;NI;3:vo NEO MESO",
    "3:KENTIMA NEO MESO;3:vo NEO KATO;3:KENTIMA NEO KATO;3:KLASMA KATO;3:GORGON NEO KATO",
    "@1D100 0:mr au de xr;2:al xr;2:ar xr;2:ie ar xr;2:on xr;2:fu xr;2:av REPEAT ak;2:ai REPEAT ak",
    "2:REPEAT du;2:DAL SEGNO;2:DA CAPO;2:SEGNO;CODA;REPEATED FIGURE-1;+2;2:FERMATA;3:aq",
    "2:BREATH bj;2:CAESURA;BRACE;bd;ONE-LINE STAFF;2:TWO-LINE STAFF;2:THREE-LINE STAFF",
    "2:FOUR-LINE STAFF;2:FIVE-LINE STAFF;2:SIX-LINE STAFF;2:SIX-STRING FRETBOARD",
    "2:FOUR-STRING FRETBOARD;2:G CLEF;4:OTTAVA ALTA;BASSA;2:C CLEF;2:F CLEF;4:OTTAVA ALTA;BASSA",
    "2:DRUM CLEF-1;+;@1D129 2:kd yu uw;2:al SHARP;FLAT;2:FLAT UP;di;2:NATURAL UP;di;2:SHARP UP;di",
    "2:fk fi SHARP;FLAT;2:COMMON TIME;2:CUT TIME;2:OTTAVA ALTA;BASSA;2:QUINDICESIMA ALTA;BASSA",
    "2:MULTI uw;2:WHOLE uw;2:dg uw;2:fk uw;2:hy uw;2:sc uw;2:wi uw;2:zn uw",
    "2:cs az TWENTY-EIGHTH uw;2:X kx;2:cz kx;2:bo X kx;2:bn kx bc;ax;2:bg kx UP bc;ax;4:av bc;ax",
    "4:ai bc;ax;4:di bc;ax;4:UP ai bc;ax;2:oo kx bc;ax;2:TRIANGLE-ROUND kx di bc;ax;2:cd kx",
    "2:VOID kx;2:kx ax;2:NULL kx;2:CLUSTER kx bc;ax;2:fd;WHOLE sw;2:dg sw;2:fk sw;2:hy sw;2:sc sw",
    "2:wi sw;2:zn sw;2:cs az TWENTY-EIGHTH sw;2:dj STEM;SPRECHGESANG STEM;3:TREMOLO-1;+2",
    "2:FINGERED TREMOLO-1;+2;2:dj AUGMENTATION cy;3:FLAG-1;+4;2:BEGIN BEAM;2:yf BEAM;2:BEGIN TIE",
    "2:yf TIE;2:BEGIN SLUR;2:yf SLUR;2:BEGIN PHRASE;2:yf PHRASE;2:dj fs;STACCATO;TENUTO",
    "STACCATISSIMO;MARCATO;MARCATO-STACCATO;ACCENT-STACCATO;LOURE;2:ARPEGGIATO UP;di;2:dj DOIT;RIP",
    "FLIP;SMEAR;BEND;al TONGUE;3:es TONGUE;2:RINFORZANDO;SUBITO;Z;PIANO;MEZZO;FORTE;CRESCENDO",
    "DECRESCENDO;GRACE sw qk;NO qk;2:TR;TURN;ca TURN;2:TURN qk;UP;2:cn STROKE-1;+8;STROKE-10;+",
    "2:HAUPTSTIMME;NEBENSTIMME;yf OF STIMME;2:DEGREE qk;2:dj di BOW;3:UP BOW;3:HARMONIC",
    "SNAP PIZZICATO;2:PEDAL bj;UP bj;2:dg PEDAL bj;2:GLISSANDO UP;di;2:ab FINGERNAILS;2:DAMP;3:ALL",
    "2:MAXIMA;LONGA;BREVIS;SEMIBREVIS bc;ax;2:MINIMA;3:ax;2:SEMIMINIMA bc;ax;2:FUSA bc;ax",
    "2:LONGA PERFECTA uw;3:IMPERFECTA uw;2:BREVIS uw;2:SEMIBREVIS uw;2:MINIMA uw;2:SEMIMINIMA uw",
    "2:TEMPUS PERFECTUM CUM PROLATIONE PERFECTA;IMPERFECTA;PERFECTA DIMINUTION-1",
    "3:IMPERFECTUM CUM PROLATIONE PERFECTA;IMPERFECTA;7:DIMINUTION-1;+2;2:CROIX;GREGORIAN C CLEF",
    "3:F CLEF;2:bn B;2:VIRGA;PODATUS;CLIVIS;SCANDICUS;CLIMACUS;TORCULUS;PORRECTUS;3:FLEXUS",
    "2:SCANDICUS FLEXUS;2:TORCULUS RESUPINUS;2:PES SUBPUNCTIS;2:KIEVAN C CLEF;3:yf OF PIECE",
    "3:ar sw;3:RECITATIVE bj;3:WHOLE sw;3:dg sw;3:fk sw STEM di;UP;3:hy sw STEM di;UP;3:FLAT ak",
    "2:SORI;KORON;@1D200 0:kn VOCAL qd SYMBOL-1;+8;SYMBOL-10;+9;SYMBOL-20;+4;SYMBOL-50;+4",
    "1:INSTRUMENTAL qd SYMBOL-1;+;SYMBOL-4;+;SYMBOL-7;+;SYMBOL-11;+3;SYMBOL-17;+2;SYMBOL-23;+4",
    "SYMBOL-29;SYMBOL-30;SYMBOL-32;SYMBOL-36;+3;SYMBOL-40;SYMBOL-42;+;SYMBOL-45;SYMBOL-47;+2",
    "SYMBOL-50;+4;0:dj kn mr TRISEME;TETRASEME;PENTASEME;0:kn mr LEIMMA;@1D2E0 0:MAYAN pb ex;cs;co",
    "aw;bt;by;fx;bv;br;dm;jx;pr;np;qo;pv;nv;pd;nl;ob;qc;@1D300 0:ur tp rr;0:DIGRAM tp HEAVENLY rr",
    "2:HUMAN rr;2:EARTHLY HEAVEN;HUMAN;2:rr;0:TETRAGRAM tp dz;if bo;2:MIRED;BARRIER;KEEPING ad",
    "2:CONTRARIETY;ASCENT;OPPOSITION;BRANCHING OUT;2:DEFECTIVENESS OR DISTORTION;2:DIVERGENCE",
    "YOUTHFULNESS;INCREASE;PENETRATION;REACH;xx;yl BACK;2:WAITING;FOLLOWING;ADVANCE;RELEASE",
    "RESISTANCE;EASE;JOY;CONTENTION;ENDEAVOUR;DUTIES;CHANGE;DECISIVENESS;mz RESOLUTION;2:PACKING",
    "LEGION;CLOSENESS;KINSHIP;GATHERING;STRENGTH;PURITY;FULLNESS;RESIDENCE;LAW OR MODEL;2:RESPONSE",
    "GOING TO MEET;2:ENCOUNTERS;STOVE;GREATNESS;ENLARGEMENT;PATTERN;RITUAL;FLIGHT",
    "VASTNESS OR WASTING;2:CONSTANCY;yu;ETERNITY;UNITY;DIMINISHMENT;gl md;2:GUARDEDNESS",
    "GATHERING IN;2:MASSING;ACCUMULATION;EMBELLISHMENT;DOUBT;WATCH;SINKING;INNER;DEPARTURE",
    "DARKENING;DIMMING;EXHAUSTION;SEVERANCE;STOPPAGE;HARDNESS;COMPLETION;CLOSURE;FAILURE",
    "AGGRAVATION;COMPLIANCE;ON ts VERGE;2:DIFFICULTIES;LABOURING;FOSTERING",
    "@1D360 0:COUNTING ROD UNIT cr cs;co;aw;bt;by;fx;bv;br;dm;2:TENS cr cs;co;aw;bt;by;fx;bv;br;dm",
    "0:gt TALLY bj cs;co;aw;bt;by;0:TALLY bj cs;by;@1D400 0:mq mz ac A;+25;2:ad A;+25;1:rj ac A",
    "+25;2:ad A;+6;@1D456 I;+17;1:mz rj ac A;+25;3:ad A;+25;1:it ac A;@1D49E C;+;@1D4A2 G;@1D4A5 J",
    "+;@1D4A9 N;+3;@1D4AE S;+7;2:ad A;+3;@1D4BB F;@1D4BD H;+6;@1D4C5 P;+10;1:mz it ac A;+25;3:ad A",
    "+25;1:FRAKTUR ac A;+;@1D507 D;+3;@1D50D J;+7;@1D516 S;+6;@1D51E 2:ad A;+25;1:hf ac A;+",
    "@1D53B D;+3;@1D540 I;+4;@1D546 O;@1D54A S;+6;@1D552 2:ad A;+25;1:mz FRAKTUR ac A;+25;3:ad A",
    "+25;1:er ac A;+25;2:ad A;+25;2:mz ac A;+25;3:ad A;+25;2:rj ac A;+25;3:ad A;+25;2:mz rj ac A",
    "+25;4:ad A;+25;1:MONOSPACE ac A;+25;2:ad A;+25;1:rj ad la I;+;@1D6A8 1:mz ac ik;to;lh;mk;gy",
    "ZETA;ETA;ks;mg;of;ry;MU;NU;XI;jg;PI;RHO;ks au;3:kh;TAU;gp;PHI;CHI;PSI;hs;2:NABLA;ad ik;to;lh",
    "mk;gy;ZETA;ETA;ks;mg;of;ry;MU;NU;XI;jg;PI;RHO;ar kh;3:kh;TAU;gp;PHI;CHI;PSI;hs;2:za ml",
    "2:gy au;2:ks au;2:of au;2:PHI au;2:RHO au;2:PI au;1:rj ac ik;to;lh;mk;gy;ZETA;ETA;ks;mg;of;ry",
    "MU;NU;XI;jg;PI;RHO;ks au;3:kh;TAU;gp;PHI;CHI;PSI;hs;2:NABLA;ad ik;to;lh;mk;gy;ZETA;ETA;ks;mg",
    "of;ry;MU;NU;XI;jg;PI;RHO;ar kh;3:kh;TAU;gp;PHI;CHI;PSI;hs;2:za ml;2:gy au;2:ks au;2:of au",
    "2:PHI au;2:RHO au;2:PI au;1:mz rj ac ik;to;lh;mk;gy;ZETA;ETA;ks;mg;of;ry;MU;NU;XI;jg;PI;RHO",
    "ks au;4:kh;TAU;gp;PHI;CHI;PSI;hs;3:NABLA;ad ik;to;lh;mk;gy;ZETA;ETA;ks;mg;of;ry;MU;NU;XI;jg",
    "PI;RHO;ar kh;4:kh;TAU;gp;PHI;CHI;PSI;hs;3:za ml;3:gy au;3:ks au;3:of au;3:PHI au;3:RHO au",
    "3:PI au;1:er mz ac ik;to;lh;mk;gy;ZETA;ETA;ks;mg;of;ry;MU;NU;XI;jg;PI;RHO;ks au;4:kh;TAU;gp",
    "PHI;CHI;PSI;hs;3:NABLA;ad ik;to;lh;mk;gy;ZETA;ETA;ks;mg;of;ry;MU;NU;XI;jg;PI;RHO;ar kh;4:kh",
    "TAU;gp;PHI;CHI;PSI;hs;3:za ml;3:gy au;3:ks au;3:of au;3:PHI au;3:RHO au;3:PI au;3:rj ac ik;to",
    "lh;mk;gy;ZETA;ETA;ks;mg;of;ry;MU;NU;XI;jg;PI;RHO;ks au;5:kh;TAU;gp;PHI;CHI;PSI;hs;4:NABLA",
    "ad ik;to;lh;mk;gy;ZETA;ETA;ks;mg;of;ry;MU;NU;XI;jg;PI;RHO;ar kh;5:kh;TAU;gp;PHI;CHI;PSI;hs",
    "4:za ml;4:gy au;4:ks au;4:of au;4:PHI au;4:RHO au;4:PI au;1:mz ac yc;2:ad yc;@1D7CE 2:cr ex",
    "cs;co;aw;bt;by;fx;bv;br;dm;1:hf cr ex;cs;co;aw;bt;by;fx;bv;br;dm;1:er cr ex;cs;co;aw;bt;by;fx",
    "bv;br;dm;2:mz cr ex;cs;co;aw;bt;by;fx;bv;br;dm;1:MONOSPACE cr ex;cs;co;aw;bt;by;fx;bv;br;dm",
    "0:SIGNWRITING ej ck;1:fw ck;1:rv ck;1:vn ck;1:fz ck;1:iq ck;1:ej ck mi;1:fw ck mi",
    "1:ej dt UNDER ck mi;2:ck ig KNUCKLE;3:CUPPED;lw;4:is;1:fw ck HINGE;1:ej ck bb;1:fw ck bb",
    "1:ej ck bb mi;ig KNUCKLES;4:lw;3:UP bb lw;3:lw bb UP;3:bb gu;5:ck mi;5:bb mi;5:CUPPED;lw;4:ln",
    "1:fw ck bb ln;1:ej bb mi dy ck;2:ck mi dy bb;3:bb dt;1:fw ck bb dt;1:ej ck bb gj dt mi",
    "4:mi dt gj;4:dt mi;4:lw or dt oq;3:UP bb lw dt oq;gu;3:lw bb UP dt oq;3:bb UP or dt jo",
    "4:dt CUPPED;dk;HOOKED;lw;2:dt jn ck bb gj;2:ck bb gu dt oq;7:gu;mi;2:bb dt HOOKED ck UP",
    "2:ck dt HOOKED bb UP;3:bb gu lw dt oq;4:ln dt oq;4:gu dt jo;5:CUPPED dt jo",
    "2:bb dt CUPPED ck UP;2:ck dt CUPPED bb UP;2:bb dt dk ck UP;lw;2:ck dt ANGLED OUT bb UP",
    "5:IN bb UP;4:dk bb UP;3:bb dt gu lw;5:ANGLED OUT;5:ANGLED;2:bb dt ANGLED OUT ck UP;ln;5:ck UP",
    "2:ck dt HOOKED bb lw;1:HAND-FLAT bt hh;4:mi;lw;gu;5:SPLIT;1:HAND-CLAW bt hh gu",
    "1:ej bt hh gu mi;1:fz bt hh gu;1:HAND-FLAT by hh or;2:HEEL by hh or;2:by hh or bt mi",
    "2:HEEL by hh or bt mi;2:by hh or mi;2:HEEL by hh or mi;2:by hh or dt jo;1:rv by hh or;5:fg",
    "1:fz by hh or fg;1:vn by hh or;1:HAND-FLAT by hh or lw;6:dt oq;6:NO dt;1:HAND-FLAT",
    "2:jn PALM FACINGS;2:HEEL;dt oq;2:HEEL dt oq;2:dt mi;jo;2:SPLIT ck dt oq;3:dz;4:dt oq;6:mi",
    "3:ea;1:HAND-CLAW;2:dt oq;2:NO dt;2:dt jo;1:rw CURLICUE;1:rw;rv fg;1:rv;2:fg dt oq;2:dt oq",
    "2:fg NO dt;2:NO dt;2:fg dt jo;2:dt jo;1:ri fg;1:ri;fw;vn;2:dt oq;2:NO dt;2:dt jo;1:fz fg",
    "3:dt jo;1:fz;2:ad;fg dt oq;2:dt oq;2:fg NO dt;2:NO dt;2:dt oq TOUCHING ck;3:jn bb ei;1:iq",
    "ej ck bb ei;1:fw ck bb ei;1:fz ck bb ei;1:iq ck bb ei;1:fz ea;1:ej ck bb ei mi;gu",
    "1:fz ck bb ei gu;1:ej ea di;4:RIPPLE gj;rg;4:OTHERS dk;3:UP;2:dt UNDER ea UP;1:fw ea UP",
    "1:vn ea UP;1:iq ea UP;1:ej ea ig KNUCKLE;3:mi;TOUCHES dt;3:dt;1:fz ea dt;1:ej ea ck dt",
    "1:fz ea ck dt;1:iq ea ck dt ck dt OUT;6:dt;1:ej ea ck;1:fw ea ck;1:fz ea ck;1:iq ea ck",
    "1:ej ck bb ea;1:fw ck bb ea;1:fz ck bb ea;2:ei;1:iq ck bb ea;1:ej ck bb gr ea",
    "1:fw ck bb gr ea;1:ej ei di;1:fz ei di ck dt bw bb;1:iq ei di bb dt ck gr;1:ej ei UP",
    "ig KNUCKLE;3:ea;1:fw ei ea;1:vn ei ea;1:iq ei ea;1:ej ei bb;4:gu;ig KNUCKLES;3:ck;dt",
    "1:rw ei dt;1:ej ck ei ea;1:fw ck ei ea;1:ri ck ei ea ON;1:rw ck ei ea OUT;IN;UNDER",
    "1:rv ck ei ea;1:fz ck ei ea;1:iq ck ei ea OUT;4:ea;1:ej bb di;1:fz bb;1:ej bb UP;1:fw bb UP",
    "1:ej bb ig KNUCKLE;3:UP dt oq;1:rw bb dt;1:ej bb dt ea;3:ea;ei ea;1:fw bb ei ea",
    "1:ri bb ei ea ON;1:rv bb ei ea;1:fz bb ei ea;1:iq bb ei ea OUT;IN;4:ea;1:fw bb ei ea mi",
    "1:HAND-CLAW bb ei ea gu;6:oq;1:rw bb ei ea gu OUT;IN;5:gu;1:fz ck lw;1:ej ck dt oq",
    "1:fz ck dt oq;1:ej ck dt oq dt dl;gu;mi;5:ck mi;5:BOTH mi;5:ck HINGE;4:jo ck gj;mi;4:bw",
    "CURLICUE;nz dt kl;1:HAND-CLAW ck dt nz dt kl;1:ej ck dt nz dt UNDER;4:bo;1:rv ck dt;4:fg",
    "1:fz ck dt fg;ee;3:dt;4:ad;1:iq ck dt OUT;IN;3:dt;1:ej dt;3:HEEL;oq dl;gu;mi;3:jo;jn ck bb",
    "4:bb ei;4:ei ea;3:UNDER co hh;3:dy co hh;3:UNDER aw hh;4:bt hh;3:dy bt ig KNUCKLES;1:ej",
    "2:HEEL;1:TOUCH de;kd;jn;1:GRASP de;kd;jn;1:STRIKE de;kd;jn;1:BRUSH de;kd;jn;1:RUB de;kd;jn",
    "1:SURFACE SYMBOLS;jn;1:SQUEEZE ee de;2:ad de;2:ee kd;2:ad kd;2:xe;1:FLICK ee de;2:ad de",
    "2:ee kd;2:ad kd;2:xe;1:SQUEEZE FLICK fo;1:MOVEMENT-HINGE UP di ee;ad;3:xe;2:di xe",
    "2:UP di fo ee;ad;2:oq TO oq vd;1:eo wq xx;1:eh wq xx;1:eo de gj ad;ce;ee;qy;3:vk FLEX;2:al gj",
    "vk FLEX;3:fo;4:vk FLEX;2:gr;es gj qb;3:vk FLEX;3:fo;4:vk FLEX;2:BEND ad;ce;ee;2:hb ad;ce;ee",
    "ROTATION;2:ua ad;ce;ee;2:BOX ad;ce;ee;2:xn ad;ce;ee;2:PEAKS ad;ce;ee;1:TRAVEL-WALLPLANE kb de",
    "al;fo;2:jp de;al;fo;2:SHAKING;ARM SPIRAL de;al;es;1:MOVEMENT-DIAGONAL AWAY ad;ce;ee;qy",
    "2:TOWARDS ad;ce;ee;qy;2:jn AWAY ad;ce;ee;qy;3:TOWARDS ad;ce;ee;qy;1:eh de gj ad;ce;ee;qy",
    "3:vk FLEX;2:al gj;vk FLEX;3:fo;4:vk FLEX;2:gr;es gj qb;3:vk FLEX;3:fo qb;vk FLEX;2:BEND;hb ad",
    "ce;ee;2:ua;BOX ad;ce;ee;2:xn ad;ce;ee;2:PEAKS ad;ce;ee;1:TRAVEL-FLOORPLANE jp de;al;fo",
    "2:kb de;al;fo;2:SHAKING;1:eo nz fk ad;ce;ee;qy;3:HALF-CIRCLE ad;ce;ee;qy",
    "3:THREE-QUARTER bo ad;ce;2:HUMP ad;ce;ee;2:uq ad;ce;ee;ad al;2:ro nz al ad;ce;ee;4:es ad;ce",
    "ee;2:nz THEN gj;2:rg gr ad;ce;1:kb de;al;fp;1:eo SHAKING;nz fv FRONT WALL",
    "2:HUMP fv FRONT WALL;2:uq fv FRONT WALL;2:ro fv FRONT WALL;1:kb de fv FRONT WALL",
    "2:al fv FRONT WALL;2:fo fv FRONT WALL;1:eo nz fv CHEST;2:HUMP fv CHEST;2:uq fv CHEST",
    "2:ro fv CHEST;1:kb de fv CHEST;2:al fv CHEST;2:fo fv CHEST;1:eo ro dl PATH ad;ce;ee",
    "1:eh nz fv qv ad;ee;2:HUMP fv qv ad al;5:ee al;5:ad es;5:ee es;2:uq fv qv ad de;5:ee de",
    "5:ad al;5:ee al;2:ro fv qv ad;ee;1:jp de fv qv;2:al fv qv;2:fo fv qv;1:eh nz fv yg ad;ee",
    "2:HUMP fv yg ad al;5:ee al;5:es ad es;6:ee es;2:uq fv yg ad de;5:ee de;5:ad al;5:ee al",
    "2:ro fv yg ad;ee;1:jp de fv yg;2:al fv yg;2:fo fv yg;1:eh nz ad;ce;ee;qy;COMBINED;2:HUMP ad",
    "2:uq ad;2:ro SNAKE;ad;ee;1:jp de;al;fo;1:eh SHAKING qh;1:eo ARM bo ad de;4:ce de;4:ad al",
    "4:ce al;1:eh ARM bo fv WALL ad de;6:ce de;6:ee de;6:ad al;6:ce al;6:ee al;1:eo vk bo FRONT de",
    "al;1:eh vk bo fv WALL de;al;1:eo wq lm de;al;1:eh wq lm fv WALL de;al;1:DYNAMIC bm ad;ee",
    "2:FAST;SLOW;TENSE;RELAXED;SIMULTANEOUS;3:fo;2:EVERY OTHER TIME;2:GRADUAL;1:tq;2:RIM;eo gj",
    "TILT;2:eh gj;2:eo nz;2:eh nz;2:qb bo;1:ds DIRECTION POSITION NOSE jo TILTING;5:UP OR di",
    "8:TILTING;1:EYEBROWS gj UP;hu;di;1:DREAMY EYEBROWS hu di;3:di hu;3:UP hu;3:hu UP",
    "1:FOREHEAD hu;xx;sf;1:rt fg;SQUEEZED;gl;1:EYE BLINK de;kd;1:rt dg fg;2:WIDE fg;2:dg gl",
    "2:WIDENING qb;1:EYE WINK;1:EYELASHES UP;di;FLUTTERING;1:qw gj;3:al;fo;1:wp gj;3:al;fo;1:qw rg",
    "1:wp rg;1:qw CIRCLING;1:CHEEKS PUFFED;hu;SUCKED;1:TENSE CHEEKS ga;bb;is;1:EARS;NOSE hu;xx",
    "WRINKLES;WIGGLES;1:AIR BLOWING OUT;2:SUCKING IN;2:BLOW ad ROTATIONS;2:SUCK ad ROTATIONS",
    "1:BREATH INHALE;EXHALE;1:md gl hu;jo;xx;2:SMILE;3:sf;fg;2:FROWN;3:sf;fg;2:fg bo;jo;sf;OVAL",
    "4:sf;YAWN;3:pi;4:sf;YAWN;2:KISS;3:jo;sf;2:TENSE;3:jo;SUCKED;1:LIPS PRESSED TOGETHER",
    "1:LIP cu dy dr;2:dr dy cu;1:md xy;WRINKLES de;al;1:TONGUE STICKING OUT FAR;2:LICKING LIPS",
    "2:TIP jn LIPS;3:TOUCHING kl md;2:kl md RELAXED;2:MOVES AGAINST CHEEK;2:dz STICKING OUT",
    "3:kl md;1:TEETH;2:qb;ON TONGUE;4:qb;3:LIPS;4:qb;2:BITE LIPS;1:eo JAW;1:eh JAW;1:NECK;HAIR",
    "EXCITEMENT;SHOULDER HIP SPINE;POSITIONS;1:WALLPLANE SHOULDER HIP MOVE",
    "1:FLOORPLANE SHOULDER HIP MOVE;1:SHOULDER TILTING me WAIST;1:TORSO-WALLPLANE gj STRETCH",
    "2:rg BEND;1:TORSO-FLOORPLANE TWISTING;1:dr BODY TILTING me HIP JOINTS;1:LIMB COMBINATION",
    "LENGTH-1;+6;1:wq;LOCATION-WALLPLANE ll;1:LOCATION-FLOORPLANE ll;1:LOCATION HEIGHT;WIDTH;DEPTH",
    "tq NECK;2:TORSO;LIMBS DIGITS;1:et;if ge;1:jt;iw;cd;@1DA9B FILL MODIFIER-2;+4",
    "@1DAA1 1:ROTATION MODIFIER-2;+7;MODIFIER-10;+6;@1DF00 0:ft ad aa FENG gm ab TRILL;3:bq it G",
    "1:aa ad ac ch G;1:ad aa bq K;1:aa ad ac L ab BELT;1:ad aa LEZH ab cx bw;3:ch Y ab BELT",
    "3:bq ENG;3:ch R ab fl LEG bi cx bw;3:T ab bw bi cx bw;1:aa cx wa ab cx bw",
    "1:ad aa ESH ab al gf;7:bi rf;3:ch T ab rf;1:aa ca go ge ab rf;2:STRETCHED C ab rf",
    "2:ad ac ch K;1:ad aa L ab ru;3:DEZH gm ab gh bw;3:L ab BELT bi gh bw;3:ENG ab gh bw",
    "3:ch R ab gh bw;3:R ab ru bi gh bw;3:TESH gm ab gh bw;3:EZH ab gh bw;3:DEZH gm ab cx bw",
    "3:I ab at bi cx bw;3:O ab cx bw;3:TESH gm ab cx bw;3:C ab cx bw;3:S ab rf",
    "@1E000 0:dj GLAGOLITIC aa AZU;BUKY;VEDE;GLAGOLI;DOBRO;YESTU;ZHIVETE;@1E008 ZEMLJA;IZHE",
    "ap IZHE;3:I;DJERVI;KAKO;LJUDIJE;MYSLITE;NASHI;ONU;POKOJI;RITSI;SLOVO;TVRIDO;UKU;FRITU;HERU",
    "@1E01B SHTA;TSI;CHRIVI;kt;YERU;YERI;YATI;@1E023 YU;ad zx;@1E026 3:YO;yn ad zx;3:BIG zx",
    "3:yn BIG zx;3:FITA;@1E100 0:NYIAKENG PUACHUE HMONG aa MA;zo;NTA;TA;HA;NA;XA;NKA;CA;LA;SA;ZA",
    "NCA;NTSA;KA;DA;lj;NRA;VA;NTXA;TXA;FA;RA;QA;YA;NQA;PA;XYA;NPA;DLA;NPLA;iz;MLA;PLA;GA;RRA;A;AA",
    "I;U;O;OO;E;EE;W;@1E130 3:TONE-B;TONE-M;TONE-J;TONE-V;TONE-S;TONE-G;TONE-D;ak tp ly;THING",
    "LOCATION;ANIMAL;INVERTEBRATE;4:XW XW;3:iu ww;@1E140 3:cr ex;cs;co;aw;bt;by;fx;bv;br;dm",
    "@1E14E 3:yt NYAJ;3:dk CA;@1E290 0:TOTO aa PA;BA;TA;DA;KA;GA;MA;NA;kp;SA;lg;YA;WA;JA;HA;RA;LA",
    "I;BREATHY I;2:IU;BREATHY IU;2:U;E;BREATHY E;2:EO;BREATHY EO;2:O;AE;BREATHY AE;2:A;1:ak op fi",
    "@1E2C0 0:WANCHO aa AA;A;BA;CA;DA;GA;YA;nx;LA;NA;PA;TA;mh;FA;SA;kt;JA;ZA;WA;VA;KA;O;AU;RA;MA",
    "lo;HA;E;I;kp;U;LLHA;zo;TRA;ONG;AANG;ANG;ING;ON;EN;AAN;lj;UEN;YIH;1:fi TUP;TUPNI;KOI;KOINI",
    "1:cr ex;cs;co;aw;bt;by;fx;bv;br;dm;@1E2FF 1:NGUN ak;@1E7E0 0:ETHIOPIC iu HHYA;HHYU;HHYI;HHYAA",
    "HHYEE;HHYE;HHYO;@1E7E8 GURAGE HHWA;2:HHWI;HHWEE;HHWE;@1E7ED GURAGE MWI;MWEE;@1E7F0 QWI;QWEE",
    "QWE;BWI;BWEE;KWI;KWEE;KWE;GWI;GWEE;GWE;FWI;FWEE;PWI;PWEE;@1E800 0:MENDE KIKAKUI iu M001 KI",
    "3:M002 KA;3:M003 KU;3:M065 KEE;3:M095 KE;3:M076 KOO;3:M048 KO;3:M179 KUA;3:M004 WI;3:M005 WA",
    "3:M006 WU;3:M126 WEE;3:M118 WE;3:M114 WOO;3:M045 WO;3:M194 WUI;3:M143 WEI;3:M061 WVI",
    "3:M049 WVA;3:M139 WVE;3:M007 MIN;3:M008 MAN;3:M009 MUN;3:M059 MEN;3:M094 MON;3:M154 MUAN",
    "3:M189 MUEN;3:M010 BI;3:M011 BA;3:M012 BU;3:M150 BEE;3:M097 BE;3:M103 BOO;3:M138 BO;3:M013 I",
    "3:M014 A;3:M015 U;3:M163 EE;3:M100 E;3:M165 OO;3:M147 O;3:M137 EI;3:M131 IN;3:M135 IN",
    "3:M195 AN;3:M178 EN;3:M019 SI;3:M020 SA;3:M021 SU;3:M162 SEE;3:M116 SE;3:M136 SOO;3:M079 SO",
    "3:M196 SIA;3:M025 LI;3:M026 LA;3:M027 LU;3:M084 LEE;3:M073 LE;3:M054 LOO;3:M153 LO",
    "3:M110 fl LE;3:M016 DI;3:M017 DA;3:M018 DU;3:M089 DEE;3:M180 DOO;3:M181 DO;3:M022 TI",
    "3:M023 TA;3:M024 TU;3:M091 TEE;3:M055 TE;3:M104 TOO;3:M069 TO;3:M028 JI;3:M029 JA;3:M030 JU",
    "3:M157 JEE;3:M113 JE;3:M160 JOO;3:M063 JO;3:M175 fl JO;3:M031 YI;3:M032 YA;3:M033 YU",
    "3:M109 YEE;3:M080 YE;3:M141 YOO;3:M121 YO;3:M034 FI;3:M035 FA;3:M036 FU;3:M078 FEE;3:M075 FE",
    "3:M133 FOO;3:M088 FO;3:M197 FUA;3:M101 FAN;3:M037 NIN;3:M038 NAN;3:M039 qr;3:M117 NEN",
    "3:M169 NON;3:M176 HI;3:M041 HA;3:M186 HU;3:M040 HEE;3:M096 HE;3:M042 HOO;3:M140 HO",
    "3:M083 HEEI;3:M128 HOOU;3:M053 HIN;3:M130 HAN;3:M087 HUN;3:M052 HEN;3:M193 HON;3:M046 HUAN",
    "3:M090 NGGI;3:M043 NGGA;3:M082 NGGU;3:M115 NGGEE;3:M146 NGGE;3:M156 NGGOO;3:M120 NGGO",
    "3:M159 NGGAA;3:M127 NGGUA;3:M086 fl NGGE;3:M106 fl NGGOO;3:M183 fl NGGO;3:M155 GI;3:M111 GA",
    "3:M168 GU;3:M190 GEE;3:M166 GUEI;3:M167 GUAN;3:M184 NGEN;3:M057 NGON;3:M177 NGUAN;3:M068 PI",
    "3:M099 PA;3:M050 PU;3:M081 PEE;3:M051 PE;3:M102 POO;3:M066 PO;3:M145 MBI;3:M062 MBA",
    "3:M122 MBU;3:M047 MBEE;3:M188 MBEE;3:M072 MBE;3:M172 MBOO;3:M174 MBO;3:M187 MBUU",
    "3:M161 fl MBE;3:M105 fl MBOO;3:M142 fl MBO;3:M132 KPI;3:M092 KPA;3:M074 KPU;3:M044 KPEE",
    "3:M108 KPE;3:M112 KPOO;3:M158 KPO;3:M124 GBI;3:M056 GBA;3:M148 GBU;3:M093 GBEE;3:M107 GBE",
    "3:M071 GBOO;3:M070 GBO;3:M171 RA;3:M123 NDI;3:M129 NDA;3:M125 NDU;3:M191 NDEE;3:M119 NDE",
    "3:M067 NDOO;3:M064 NDO;3:M152 NJA;3:M192 NJU;3:M149 NJEE;3:M134 NJOO;3:M182 VI;3:M185 VA",
    "3:M151 VU;3:M173 VEE;3:M085 VE;3:M144 VOO;3:M077 VO;3:M164 NYIN;3:M058 NYAN;3:M170 NYUN",
    "3:M098 NYEN;3:M060 NYON;@1E8C7 2:cr cs;co;aw;bt;by;fx;bv;br;dm;2:dj dq TEENS;TENS;HUNDREDS;nn",
    "jx nn;4:az nn;4:rz;@1E900 0:ADLAM ac aa ALIF;DAALI;LAAM;MIIM;BA;SINNYIIYHE;PE;BHE;RA;E;FA;I;O",
    "po;YHE;tt;qr;yp;YA;U;JIIM;CHI;HA;QAAF;GA;lj;TU;NHA;VA;lo;GBE;ZAL;KPO;kt;1:ad aa ALIF;DAALI",
    "LAAM;MIIM;BA;SINNYIIYHE;PE;BHE;RA;E;FA;I;O;po;YHE;tt;qr;yp;YA;U;JIIM;CHI;HA;QAAF;GA;lj;TU;NHA",
    "VA;lo;GBE;ZAL;KPO;kt;1:ALIF ww;1:cm ww;1:sp bj;1:hz;fq ev;1:GEMINATE fq ev;1:kq;yw bj",
    "@1E950 1:cr ex;cs;co;aw;bt;by;fx;bv;br;dm;@1E95E 1:ap dw bj;2:fc bj",
    "@1EC71 0:INDIC SIYAQ dq cs;co;aw;bt;by;fx;bv;br;dm;jx;fm;jk;od;im;ou;ff;mm;gb;cs az;3:co az",
    "3:aw az;3:bt az;3:by az;3:fx az;3:bv az;3:br az;3:dm az;3:cs ba;3:co ba;3:aw ba;3:bt ba",
    "3:by ba;3:fx ba;3:bv ba;3:br ba;3:dm ba;3:jx ba;3:fm ba;3:jk ba;3:od ba;3:im ba;3:ou ba",
    "3:ff ba;3:mm ba;3:gb ba;3:LAKH;LAKHAN;2:LAKH bj;2:dq KAROR;KARORAN;PREFIXED cs;co;aw;bt;by;fx",
    "bv;br;dm;2:PLACEHOLDER;hq cs fk;dg;3:aw ji;2:RUPEE bj;2:dq fp cs;co;jx ba;2:fp LAKH bj",
    "@1ED01 0:OTTOMAN SIYAQ dq cs;co;aw;bt;by;fx;bv;br;dm;jx;fm;jk;od;im;ou;ff;mm;gb;cs az;3:co az",
    "3:aw az;3:bt az;3:by az;3:fx az;3:bv az;3:br az;3:dm az;3:cs ba;3:co ba;3:aw ba;3:bt ba",
    "3:by ba;3:fx ba;3:bv ba;3:br ba;3:dm ba;3:jx ba;3:fm ba;3:jk ba;3:od ba;3:im ba;3:ou ba",
    "3:ff ba;3:mm ba;3:gb ba;2:MARRATAN;fp dq co;aw;bt;by;fx;bv;br;dm;jx;bt az;4:fx az;4:co ba",
    "4:jx ba;2:hq cs dg;SIXTH;@1EE00 0:kk mq ec;BEH;fj;DAL;@1EE05 tt;zv;iz;TAH;hl;yp;tu;cv;ke;oj",
    "vz;FEH;SAD;QAF;xo;na;TEH;THEH;ia;THAL;DAD;ZAH;ot;la BEH;ke;FEH;QAF;@1EE21 2:ap BEH;fj",
    "@1EE24 zw;@1EE27 iz;@1EE29 hl;yp;tu;cv;ke;oj;vz;FEH;SAD;QAF;@1EE34 na;TEH;THEH;ia;@1EE39 DAD",
    "@1EE3B ot;@1EE42 2:TAILED fj;@1EE47 iz;@1EE49 hl;@1EE4B tu;@1EE4D ke;oj;vz;@1EE51 SAD;QAF",
    "@1EE54 na;@1EE57 ia;@1EE59 DAD;@1EE5B ot;@1EE5D la ke;@1EE5F QAF;@1EE61 2:STRETCHED BEH;fj",
    "@1EE64 zw;@1EE67 iz;TAH;hl;yp;@1EE6C cv;ke;oj;vz;FEH;SAD;QAF;@1EE74 na;TEH;THEH;ia;@1EE79 DAD",
    "ZAH;ot;la BEH;@1EE7E FEH;@1EE80 2:LOOPED ec;BEH;fj;DAL;zw;tt;zv;iz;TAH;hl;@1EE8B tu;cv;ke;oj",
    "vz;FEH;SAD;QAF;xo;na;TEH;THEH;ia;THAL;DAD;ZAH;ot;@1EEA1 2:hf BEH;fj;DAL;@1EEA5 tt;zv;iz;TAH",
    "hl;@1EEAB tu;cv;ke;oj;vz;FEH;SAD;QAF;xo;na;TEH;THEH;ia;THAL;DAD;ZAH;ot",
    "@1EEF0 2:do cv ab iz ab TATWEEL;3:iz ab DAL;@1F000 0:MAHJONG TILE hc WIND;2:gz WIND;2:ic WIND",
    "2:gi WIND;2:RED wn;2:GREEN wn;2:bc wn;2:cs OF kv;2:co OF kv;2:aw OF kv;2:bt OF kv;2:by OF kv",
    "2:fx OF kv;2:bv OF kv;2:br OF kv;2:dm OF kv;2:cs OF qu;2:co OF qu;2:aw OF qu;2:bt OF qu",
    "2:by OF qu;2:fx OF qu;2:bv OF qu;2:br OF qu;2:dm OF qu;2:cs OF lm;2:co OF lm;2:aw OF lm",
    "2:bt OF lm;2:by OF lm;2:fx OF lm;2:bv OF lm;2:br OF lm;2:dm OF lm;2:PLUM;ORCHID;BAMBOO",
    "CHRYSANTHEMUM;SPRING;SUMMER;AUTUMN;WINTER;JOKER;BACK;@1F030 0:DOMINO TILE as BACK",
    "2:HORIZONTAL-00-00;+6;HORIZONTAL-01-00;+6;HORIZONTAL-02-00;+6;HORIZONTAL-03-00;+6",
    "HORIZONTAL-04-00;+6;HORIZONTAL-05-00;+6;HORIZONTAL-06-00;+6;an BACK;2:VERTICAL-00-00;+6",
    "VERTICAL-01-00;+6;VERTICAL-02-00;+6;VERTICAL-03-00;+6;VERTICAL-04-00;+6;VERTICAL-05-00;+6",
    "VERTICAL-06-00;+6;@1F0A0 0:PLAYING CARD BACK;ACE OF nm;2:co OF nm;2:aw OF nm;2:bt OF nm",
    "2:by OF nm;2:fx OF nm;2:bv OF nm;2:br OF nm;2:dm OF nm;2:jx OF nm;2:JACK OF nm;2:ht OF nm",
    "2:qi OF nm;2:un OF nm;@1F0B1 2:ACE OF ld;2:co OF ld;2:aw OF ld;2:bt OF ld;2:by OF ld",
    "2:fx OF ld;2:bv OF ld;2:br OF ld;2:dm OF ld;2:jx OF ld;2:JACK OF ld;2:ht OF ld;2:qi OF ld",
    "2:un OF ld;2:RED JOKER;@1F0C1 2:ACE OF js;2:co OF js;2:aw OF js;2:bt OF js;2:by OF js",
    "2:fx OF js;2:bv OF js;2:br OF js;2:dm OF js;2:jx OF js;2:JACK OF js;2:ht OF js;2:qi OF js",
    "2:un OF js;2:ax JOKER;@1F0D1 2:ACE OF rq;2:co OF rq;2:aw OF rq;2:bt OF rq;2:by OF rq",
    "2:fx OF rq;2:bv OF rq;2:br OF rq;2:dm OF rq;2:jx OF rq;2:JACK OF rq;2:ht OF rq;2:qi OF rq",
    "2:un OF rq;2:bc JOKER;2:FOOL;TRUMP-1;+8;TRUMP-10;+9;TRUMP-20;+;@1F100 0:cr ex if ge;2:et",
    "1:cs et;1:co et;1:aw et;1:bt et;1:by et;1:fx et;1:bv et;1:br et;1:dm et;0:DINGBAT dk er cr ex",
    "1:jf dk er cr ex;0:dk ex ab qk;1:el ae;1:DOLLAR ak ab OVERLAID pg;0:rm ft ac aa A;+25",
    "0:ib ky BRACKETED ft ac aa S;0:dk rj ft ac aa C;R;1:CD;WZ;0:COPYLEFT au;0:fb ft ac aa A;+25",
    "1:HV;MV;SD;SS;PPV;WC;0:jf dk ft ac aa A;+25;0:ig MC ak;1:MD ak;1:MR ak;0:dk CC",
    "C ab OVERLAID pg;1:HUMAN FIGURE;0:jf fb ft ac aa A;+25;0:ln jf fb ft ac aa P;0:jf fb IC;PA;SA",
    "AB;WC;0:bn DJ;0:fb CL;COOL;FREE;ID;NEW;NG;OK;SOS;UP ab dw bj;1:VS;aw D;1:SECOND SCREEN;1:co K",
    "1:bt K;1:br K;1:by tl cs;1:bv tl cs;1:TWENTY-TWO tl co;1:ou P;1:cs az fm P;1:ft ad aa D;1:HC",
    "HDR;HI-RES;LOSSLESS;SHV;UHD;VOD;0:MASK WORK au;@1F1E6 0:REGIONAL nj au aa A;+25;0:bn uj HOKA",
    "0:fb li KOKO;SA;@1F210 1:CJK UNIFIED IDEOGRAPH-624B;IDEOGRAPH-5B57;IDEOGRAPH-53CC;1:li DE",
    "1:CJK UNIFIED IDEOGRAPH-4E8C;IDEOGRAPH-591A;IDEOGRAPH-89E3;IDEOGRAPH-5929;IDEOGRAPH-4EA4",
    "IDEOGRAPH-6620;IDEOGRAPH-7121;IDEOGRAPH-6599;IDEOGRAPH-524D;IDEOGRAPH-5F8C;IDEOGRAPH-518D",
    "IDEOGRAPH-65B0;IDEOGRAPH-521D;IDEOGRAPH-7D42;IDEOGRAPH-751F;IDEOGRAPH-8CA9;IDEOGRAPH-58F0",
    "IDEOGRAPH-5439;IDEOGRAPH-6F14;IDEOGRAPH-6295;IDEOGRAPH-6355;IDEOGRAPH-4E00;IDEOGRAPH-4E09",
    "IDEOGRAPH-904A;IDEOGRAPH-5DE6;IDEOGRAPH-4E2D;IDEOGRAPH-53F3;IDEOGRAPH-6307;IDEOGRAPH-8D70",
    "IDEOGRAPH-6253;IDEOGRAPH-7981;IDEOGRAPH-7A7A;IDEOGRAPH-5408;IDEOGRAPH-6E80;IDEOGRAPH-6709",
    "IDEOGRAPH-6708;IDEOGRAPH-7533;IDEOGRAPH-5272;IDEOGRAPH-55B6;IDEOGRAPH-914D",
    "@1F240 0:ib ky BRACKETED CJK UNIFIED IDEOGRAPH-672C;IDEOGRAPH-4E09;IDEOGRAPH-4E8C",
    "IDEOGRAPH-5B89;IDEOGRAPH-70B9;IDEOGRAPH-6253;IDEOGRAPH-76D7;IDEOGRAPH-52DD;IDEOGRAPH-6557",
    "@1F250 0:dk IDEOGRAPH ADVANTAGE;ACCEPT;@1F260 0:pc au tp FU;LU;SHOU;XI;SHUANGXI;CAI",
    "@1F300 0:CYCLONE;FOGGY;gl zr;0:NIGHT ab STARS;0:SUNRISE dy MOUNTAINS;0:SUNRISE",
    "CITYSCAPE AT DUSK;0:SUNSET dy BUILDINGS;0:RAINBOW;BRIDGE AT NIGHT;0:tn ro;0:VOLCANO;MILKY WAY",
    "0:rr GLOBE EUROPE-AFRICA;AMERICAS;ASIA-AUSTRALIA;0:GLOBE ab MERIDIANS;0:NEW oo au",
    "0:WAXING ub oo au;0:FIRST fk oo au;0:WAXING GIBBOUS oo au;0:if oo au;0:WANING GIBBOUS oo au",
    "0:LAST fk oo au;0:WANING ub oo au;0:ub oo;0:NEW oo ab ds;0:FIRST fk oo ab ds",
    "0:LAST fk oo ab ds;0:if oo ab ds;0:SUN ab ds;0:GLOWING hk;0:SHOOTING hk;0:THERMOMETER",
    "ax DROPLET;0:bc SUN;2:ab ad CLOUD;2:BEHIND CLOUD;4:ab RAIN;0:CLOUD ab RAIN;SNOW;LIGHTNING",
    "TORNADO;0:FOG;WIND BLOWING ds;0:HOT DOG;0:TACO;BURRITO;CHESTNUT;SEEDLING;EVERGREEN TREE",
    "0:DECIDUOUS TREE;0:PALM TREE;0:CACTUS;HOT PEPPER;0:TULIP;CHERRY BLOSSOM;0:ROSE;HIBISCUS",
    "SUNFLOWER;BLOSSOM;EAR OF MAIZE;RICE;0:HERB;bt rk CLOVER;0:MAPLE rk;0:FALLEN rk",
    "0:rk FLUTTERING IN WIND;0:MUSHROOM;TOMATO;AUBERGINE;GRAPES;MELON;WATERMELON;TANGERINE;LEMON",
    "BANANA;PINEAPPLE;RED APPLE;0:GREEN APPLE;0:PEAR;PEACH;CHERRIES;STRAWBERRY;HAMBURGER",
    "SLICE OF PIZZA;0:MEAT ON BONE;0:POULTRY LEG;0:RICE CRACKER;BALL;0:COOKED RICE;0:CURRY bi RICE",
    "0:STEAMING BOWL;0:SPAGHETTI;BREAD;FRENCH FRIES;0:ROASTED SWEET POTATO;0:DANGO;ODEN;SUSHI",
    "FRIED SHRIMP;0:FISH CAKE ab SWIRL DESIGN;0:SOFT ICE CREAM;0:SHAVED ICE;0:ICE CREAM;0:DOUGHNUT",
    "COOKIE;CHOCOLATE gf;0:CANDY;LOLLIPOP;CUSTARD;HONEY POT;0:SHORTCAKE;BENTO BOX;0:POT OF FOOD",
    "0:COOKING;FORK bi KNIFE;0:TEACUP WITHOUT HANDLE;0:SAKE BOTTLE bi CUP;0:WINE GLASS",
    "0:COCKTAIL GLASS;0:TROPICAL DRINK;0:BEER MUG;0:CLINKING BEER MUGS;0:BABY BOTTLE",
    "0:FORK bi KNIFE ab PLATE;0:BOTTLE ab POPPING CORK;0:POPCORN;RIBBON;WRAPPED PRESENT",
    "0:BIRTHDAY CAKE;0:JACK-O-LANTERN;CHRISTMAS TREE;0:FATHER CHRISTMAS;0:FIREWORKS",
    "FIREWORK SPARKLER;0:BALLOON;PARTY POPPER;0:CONFETTI BALL;0:TANABATA TREE;0:ln FLAGS",
    "0:PINE DECORATION;0:rx DOLLS;0:CARP STREAMER;0:WIND CHIME;0:oo VIEWING CEREMONY",
    "0:SCHOOL SATCHEL;0:GRADUATION CAP;0:jm ab TIP ON ts av;0:BOUQUET OF FLOWERS;0:MILITARY MEDAL",
    "0:REMINDER RIBBON;0:mr yr ab JACKS;0:STUDIO MICROPHONE;0:LEVEL SLIDER;0:CONTROL KNOBS",
    "0:BEAMED ASCENDING mr NOTES;1:DESCENDING mr NOTES;0:FILM FRAMES;0:ADMISSION TICKETS",
    "0:CAROUSEL HORSE;0:FERRIS WHEEL;0:ROLLER COASTER;0:FISHING POLE bi FISH;0:MICROPHONE",
    "MOVIE CAMERA;0:CINEMA;HEADPHONE;ARTIST PALETTE;0:se HAT;0:CIRCUS TENT;0:TICKET;CLAPPER BOARD",
    "0:PERFORMING ARTS;0:VIDEO GAME;0:DIRECT HIT;0:SLOT MACHINE;0:BILLIARDS;GAME DIE;0:BOWLING",
    "FLOWER PLAYING CARDS;0:mr sw;0:kd mr NOTES;0:SAXOPHONE;GUITAR;mr yr;0:TRUMPET;VIOLIN;mr SCORE",
    "0:RUNNING SHIRT ab SASH;0:TENNIS RACQUET bi BALL;0:SKI bi SKI BOOT;0:BASKETBALL bi HOOP",
    "0:CHEQUERED FLAG;0:SNOWBOARDER;RUNNER;SURFER;SPORTS MEDAL;0:TROPHY;HORSE RACING",
    "0:AMERICAN FOOTBALL;0:RUGBY FOOTBALL;0:SWIMMER;WEIGHT LIFTER;0:GOLFER;RACING MOTORCYCLE;CAR",
    "0:CRICKET BAT bi BALL;0:VOLLEYBALL;FIELD HOCKEY STICK bi BALL;0:ICE HOCKEY STICK bi PUCK",
    "0:TABLE TENNIS PADDLE bi BALL;0:SNOW CAPPED qa;0:CAMPING;BEACH ab zr;0:xt xw",
    "0:HOUSE BUILDINGS;0:CITYSCAPE;DERELICT HOUSE xt;0:CLASSICAL xt;0:DESERT;1:ISLAND",
    "0:NATIONAL PARK;0:STADIUM;HOUSE xt;ab GARDEN;0:OFFICE xt;0:rx POST OFFICE",
    "0:EUROPEAN POST OFFICE;0:HOSPITAL;BANK;AUTOMATED TELLER MACHINE;0:HOTEL;LOVE HOTEL",
    "0:CONVENIENCE STORE;0:SCHOOL;DEPARTMENT STORE;0:FACTORY;IZAKAYA LANTERN;0:rx CASTLE",
    "0:EUROPEAN CASTLE;0:bc PENNANT;0:ax PENNANT;0:WAVING bc FLAG;1:ax FLAG;0:ROSETTE;ax ROSETTE",
    "0:LABEL;BADMINTON RACQUET bi SHUTTLECOCK;0:BOW bi ae;0:AMPHORA;EMOJI ev FITZPATRICK TYPE-1-2",
    "TYPE-3;+3;0:RAT;MOUSE;OX;tn BUFFALO;0:COW;TIGER;LEOPARD;RABBIT;CAT;wn;CROCODILE;WHALE;SNAIL",
    "SNAKE;HORSE;RAM;GOAT;SHEEP;MONKEY;ROOSTER;CHICKEN;DOG;PIG;BOAR;ELEPHANT;OCTOPUS;SPIRAL ky",
    "0:BUG;ANT;HONEYBEE;LADY BEETLE;0:FISH;TROPICAL FISH;0:BLOWFISH;TURTLE;HATCHING CHICK",
    "0:BABY CHICK;0:FRONT-FACING BABY CHICK;0:BIRD;PENGUIN;KOALA;POODLE;DROMEDARY CAMEL",
    "0:BACTRIAN CAMEL;0:DOLPHIN;MOUSE ds;0:COW ds;0:TIGER ds;0:RABBIT ds;0:CAT ds;0:wn ds",
    "0:SPOUTING WHALE;0:HORSE ds;0:MONKEY ds;0:DOG ds;0:PIG ds;0:FROG ds;0:HAMSTER ds;0:WOLF ds",
    "0:BEAR ds;0:PANDA ds;0:PIG NOSE;0:PAW PRINTS;0:CHIPMUNK;rt;EYE;EAR;NOSE;md;TONGUE",
    "bc UP cb pk ck;1:di cb pk ck;1:av cb pk ck;1:ai cb pk ck;0:FISTED mf ak;0:WAVING mf ak",
    "0:OK mf ak;0:THUMBS UP ak;1:di ak;0:CLAPPING HANDS ak;0:fg HANDS ak;0:CROWN;WOMANS HAT",
    "0:EYEGLASSES;NECKTIE;T-SHIRT;JEANS;DRESS;KIMONO;BIKINI;WOMANS CLOTHES;0:PURSE;HANDBAG;POUCH",
    "MANS SHOE;0:ATHLETIC SHOE;0:HIGH-HEELED SHOE;0:WOMANS SANDAL;BOOTS;0:FOOTPRINTS;BUST IN xg",
    "0:BUSTS IN xg;0:BOY;GIRL;MAN;WOMAN;FAMILY;MAN bi WOMAN yl HANDS;0:co MEN yl HANDS",
    "1:WOMEN yl HANDS;0:POLICE OFFICER;0:WOMAN ab BUNNY EARS;0:BRIDE ab VEIL;0:ly ab BLOND HAIR",
    "0:MAN ab GUA PI MAO;2:TURBAN;0:OLDER MAN;WOMAN;0:BABY;xw WORKER;0:PRINCESS;rx OGRE;GOBLIN",
    "0:GHOST;BABY ANGEL;0:EXTRATERRESTRIAL ALIEN;0:ALIEN MONSTER;0:IMP;SKULL;INFORMATION DESK ly",
    "0:GUARDSMAN;DANCER;LIPSTICK;NAIL POLISH;0:ds MASSAGE;0:HAIRCUT;BARBER POLE;0:SYRINGE;PILL",
    "KISS bj;0:LOVE aa;0:ei;GEM STONE;0:KISS;BOUQUET;COUPLE ab jm;0:WEDDING;BEATING jm;0:BROKEN jm",
    "0:co ld;0:SPARKLING jm;0:GROWING jm;0:jm ab ae;0:BLUE jm;0:GREEN jm;0:YELLOW jm;0:PURPLE jm",
    "0:jm ab RIBBON;0:REVOLVING ld;0:jm DECORATION;0:ek SHAPE ab A cy kl;0:ELECTRIC cl BULB",
    "0:ANGER au;0:BOMB;SLEEPING au;0:COLLISION au;0:SPLASHING SWEAT au;0:DROPLET;jw au",
    "0:PILE OF POO;0:FLEXED BICEPS;0:DIZZY au;0:SPEECH BALLOON;0:THOUGHT BALLOON;0:bc FLOWER",
    "0:az POINTS au;0:MONEY BAG;0:xz EXCHANGE;0:bl DOLLAR ak;0:CREDIT CARD;0:BANKNOTE ab YEN ak",
    "2:DOLLAR ak;2:EURO ak;2:POUND ak;0:MONEY ab WINGS;0:CHART ab bp TREND bi YEN ak;0:SEAT",
    "PERSONAL COMPUTER;0:BRIEFCASE;MINIDISC;FLOPPY DISK;0:OPTICAL DISC;0:DVD;FILE FOLDER",
    "0:fg FILE FOLDER;0:PAGE ab rf;1:FACING UP;0:CALENDAR;TEAR-OFF CALENDAR;0:CARD ck",
    "0:CHART ab bp TREND;2:ay TREND;0:gf CHART;0:CLIPBOARD;PUSHPIN;va PUSHPIN;0:PAPERCLIP;gj RULER",
    "0:ez RULER;0:BOOKMARK TABS;0:LEDGER;NOTEBOOK;1:ab DECORATIVE COVER;0:gl BOOK;0:fg BOOK",
    "0:GREEN BOOK;0:BLUE BOOK;0:ORANGE BOOK;0:BOOKS;NAME BADGE;0:SCROLL;MEMO;ju RECEIVER;0:PAGER",
    "FAX MACHINE;0:SATELLITE ANTENNA;0:PUBLIC ADDRESS LOUDSPEAKER;0:CHEERING MEGAPHONE",
    "0:OUTBOX TRAY;0:INBOX TRAY;0:PACKAGE;E-MAIL au;0:INCOMING oc;0:oc ab ay ae aj",
    "0:gl MAILBOX ab LOWERED FLAG;3:ig FLAG;0:fg MAILBOX ab ig FLAG;3:LOWERED FLAG;0:POSTBOX",
    "POSTAL le;0:NEWSPAPER;MOBILE PHONE;2:ab ah ae AT av;0:VIBRATION MODE;0:MOBILE PHONE OFF",
    "0:NO MOBILE PHONES;0:ANTENNA ab BARS;0:CAMERA;1:ab FLASH;0:VIDEO CAMERA;0:TELEVISION;RADIO",
    "VIDEOCASSETTE;FILM PROJECTOR;0:PORTABLE STEREO;0:PRAYER BEADS;0:TWISTED ah lu",
    "0:iy ah bi am fg bo lu;7:ab dk cs ho;1:ay bi bp fg bo lu;0:el ay bi bp fg bo lu",
    "0:is BRIGHTNESS au;0:ga BRIGHTNESS au;0:SPEAKER ab sk at;0:SPEAKER;1:ab cs ov ro",
    "2:aw ov WAVES;0:BATTERY;ELECTRIC PLUG;0:eb MAGNIFYING GLASS;0:da MAGNIFYING GLASS",
    "0:LOCK ab INK PEN;0:gl LOCK ab KEY;0:KEY;LOCK;fg LOCK;0:BELL;1:ab sk at;0:BOOKMARK;LINK au",
    "0:RADIO BUTTON;0:BACK ab am ae aj;0:yf ab am ae aj;0:ON ab dw bj ab av ai ae aj",
    "0:SOON ab ah ae aj;0:se ab bp ae aj;0:NO cs UNDER ob au;0:KEYCAP jx",
    "0:INPUT au tp ft ac LETTERS;4:ad LETTERS;3:NUMBERS;SYMBOLS;ft LETTERS;0:FIRE;ELECTRIC TORCH",
    "0:WRENCH;HAMMER;NUT bi BOLT;0:HOCHO;PISTOL;MICROSCOPE;TELESCOPE;CRYSTAL BALL",
    "0:fx fa hk ab bb cy;0:rx au tp BEGINNER;0:TRIDENT EMBLEM;0:ax bn BUTTON;0:bc bn BUTTON",
    "0:ee RED bo;1:BLUE bo;1:ORANGE ek;1:BLUE ek;0:ad ORANGE ek;1:BLUE ek;0:hd RED bg;0:gv RED bg",
    "0:hd ad RED bg;0:gv ad RED bg;0:cu ai kg bc bo;0:dr ai kg bc bo;0:dk gr POMMEE",
    "0:gr POMMEE ab HALF-CIRCLE aq;1:POMMEE;0:ra av ta ab aw du;1:ai ta ab aw du",
    "0:au tp MARKS CHAPTER;0:bc ft gr;0:bl ft gr;0:CELTIC gr;0:OM au;0:DOVE OF PEACE;0:KAABA",
    "MOSQUE;SYNAGOGUE;MENORAH ab dm BRANCHES;0:BOWL OF HYGIEIA;0:CLOCK ds cs qe;2:co qe;2:aw qe",
    "2:bt qe;2:by qe;2:fx qe;2:bv qe;2:br qe;2:dm qe;2:jx qe;2:pr qe;2:np qe;2:ONE-THIRTY",
    "TWO-THIRTY;THREE-THIRTY;FOUR-THIRTY;FIVE-THIRTY;SIX-THIRTY;SEVEN-THIRTY;EIGHT-THIRTY",
    "NINE-THIRTY;TEN-THIRTY;ELEVEN-THIRTY;TWELVE-THIRTY;0:ai SPEAKER;2:ab cs ov ro;3:aw ov WAVES",
    "0:BULLHORN;1:ab ov WAVES;0:RINGING BELL;0:BOOK;CANDLE;MANTELPIECE CLOCK",
    "0:ax SKULL bi CROSSBONES;0:NO PIRACY;0:HOLE;MAN IN BUSINESS SUIT LEVITATING;0:SLEUTH OR SPY",
    "0:DARK SUNGLASSES;0:SPIDER;1:WEB;0:JOYSTICK;MAN DANCING;0:av mf ju RECEIVER",
    "0:ju RECEIVER ab PAGE;0:ai mf ju RECEIVER;0:bc TOUCHTONE ju;0:ax TOUCHTONE ju",
    "0:ju ON se OF MODEM;0:CLAMSHELL MOBILE PHONE;0:BACK OF oc;0:STAMPED oc;0:oc ab LIGHTNING",
    "0:FLYING oc;0:PEN dy STAMPED oc;0:LINKED PAPERCLIPS;0:ax PUSHPIN;0:cu av PENCIL;BALLPOINT PEN",
    "2:FOUNTAIN PEN;2:PAINTBRUSH;CRAYON;0:av WRITING mf;0:ch OK mf ak;0:ig mf ab hh SPLAYED",
    "0:bq ig mf ab hh SPLAYED;1:THUMBS UP ak;2:di ak;1:VICTORY mf;1:mf ab bb wq pu",
    "0:ig mf ab PART jn bb bi ei hh;0:bc di cb av mf ck;0:ok bc av cb ck;2:ai cb ck;1:ax av cb ck",
    "2:ai cb ck;0:ax av cb pk ck;1:ai cb pk ck;0:ok bc UP cb ck;2:di cb ck;1:ax UP cb ck",
    "2:di cb ck;0:ax UP cb pk ck;1:di cb pk ck;1:jm;0:DESKTOP COMPUTER;0:yr bi MOUSE",
    "0:aw NETWORKED COMPUTERS;0:PRINTER;POCKET CALCULATOR;0:ax HARD ky FLOPPY DISK",
    "0:bc HARD ky FLOPPY DISK;0:SOFT ky FLOPPY DISK;0:TAPE CARTRIDGE;0:WIRED yr;0:cs BUTTON MOUSE",
    "0:co BUTTON MOUSE;0:aw BUTTON MOUSE;0:TRACKBALL;oh PERSONAL COMPUTER;0:HARD DISK;0:SCREEN",
    "PRINTER ICON;0:FAX ICON;0:OPTICAL DISC ICON;0:DOCUMENT ab TEXT;3:bi PICTURE;2:PICTURE",
    "0:FRAME ab PICTURE;TILES;AN X;0:ax FOLDER;0:FOLDER;fg FOLDER;0:CARD ck DIVIDERS;1:FILE BOX",
    "0:FILE CABINET;0:EMPTY sw;2:PAGE;PAD;0:sw;1:PAGE;PAD;0:EMPTY DOCUMENT;PAGE;PAGES;0:DOCUMENT",
    "PAGE;PAGES;WASTEBASKET;SPIRAL sw PAD;1:CALENDAR PAD;0:DESKTOP WINDOW;0:MINIMIZE;MAXIMIZE",
    "OVERLAP;iy ai bi av ta lu;0:sk X;0:INCREASE FONT SIZE au;0:DECREASE FONT SIZE au",
    "0:COMPRESSION;oh KEY;0:ROLLED-UP NEWSPAPER;0:PAGE ab dk TEXT;0:STOCK CHART;0:DAGGER KNIFE",
    "0:LIPS;SPEAKING tq IN xg;0:aw RAYS aj;aq;av;ai;0:av SPEECH tz;0:ai SPEECH tz",
    "0:co SPEECH BUBBLES;0:aw SPEECH BUBBLES;0:av THOUGHT tz;0:ai THOUGHT tz;0:av ANGER tz",
    "0:ai ANGER tz;0:MOOD tz;0:LIGHTNING MOOD tz;1:MOOD;0:zz BOX ab zz;1:it X;1:BOX ab it X",
    "1:mz it X;1:BOX ab mz it X;0:cl ua bj;0:zz BOX ab mz ua;0:WORLD MAP;0:MOUNT FUJI",
    "0:TOKYO TOWER;0:STATUE OF LIBERTY;0:xg OF JAPAN;0:MOYAI;GRINNING ds;2:ab jq rt",
    "0:ds ab TEARS OF JOY;0:jq ds ab fg md;5:bi jq rt;6:COLD SWEAT;6:TIGHTLY-CLOSED rt;3:HALO",
    "HORNS;0:WINKING ds;0:jq ds ab jq rt;0:ds SAVOURING DELICIOUS FOOD;0:RELIEVED ds",
    "0:jq ds ab HEART-SHAPED rt;3:SUNGLASSES;0:SMIRKING ds;0:hu ds;0:EXPRESSIONLESS ds",
    "0:UNAMUSED ds;0:ds ab COLD SWEAT;0:PENSIVE ds;0:CONFUSED ds;0:CONFOUNDED ds;0:KISSING ds",
    "0:ds THROWING A KISS;0:KISSING ds ab jq rt;3:gl rt;0:ds ab STUCK-OUT TONGUE;4:bi WINKING EYE",
    "5:TIGHTLY-CLOSED rt;0:DISAPPOINTED ds;0:WORRIED ds;0:ANGRY ds;0:POUTING ds;0:CRYING ds",
    "0:PERSEVERING ds;0:ds ab LOOK OF TRIUMPH;0:DISAPPOINTED BUT RELIEVED ds",
    "0:FROWNING ds ab fg md;0:ANGUISHED ds;0:FEARFUL ds;0:WEARY ds;0:SLEEPY ds;0:TIRED ds",
    "0:GRIMACING ds;0:LOUDLY CRYING ds;0:ds ab fg md;0:HUSHED ds;0:ds ab fg md bi COLD SWEAT",
    "1:SCREAMING IN FEAR;0:ASTONISHED ds;0:FLUSHED ds;0:SLEEPING ds;0:DIZZY ds;0:ds WITHOUT md",
    "1:ab MEDICAL MASK;0:GRINNING CAT ds ab jq rt;0:CAT ds ab TEARS OF JOY;0:jq CAT ds ab fg md",
    "4:HEART-SHAPED rt;0:CAT ds ab WRY SMILE;0:KISSING CAT ds ab gl rt;0:POUTING CAT ds",
    "0:CRYING CAT ds;0:WEARY CAT ds;0:SLIGHTLY FROWNING ds;1:jq ds;0:UPSIDE-DOWN ds",
    "0:ds ab ROLLING rt;2:NO GOOD GESTURE;2:OK GESTURE;0:ly BOWING DEEPLY;0:SEE-NO-EVIL MONKEY",
    "0:HEAR-NO-EVIL MONKEY;0:SPEAK-NO-EVIL MONKEY;0:HAPPY ly RAISING cs mf",
    "0:ly RAISING BOTH HANDS IN CELEBRATION;1:FROWNING;ab POUTING ds;2:FOLDED HANDS;0:gi ic cb rk",
    "0:gz ic cb rk;0:gi hc cb rk;0:gz hc cb rk;0:ch gi ic cb rk;1:gz ic cb rk;1:gi hc cb rk",
    "1:gz hc cb rk;0:gi ic cb VINE rk;0:gz ic cb VINE rk;0:gi hc cb VINE rk;0:gz hc cb VINE rk",
    "0:bl gi ic cb VINE rk;1:gz ic cb VINE rk;1:gi hc cb VINE rk;1:gz hc cb VINE rk;0:gi ic cb BUD",
    "0:gz ic cb BUD;0:gi hc cb BUD;0:gz hc cb BUD;0:bl gi ic cb BUD;1:gz ic cb BUD;1:gi hc cb BUD",
    "1:gz hc cb BUD;0:HOLLOW QUILT bn cn;4:IN ax bn;0:SOLID QUILT bn cn;4:IN ax bn;0:am ROCKET",
    "0:bp ROCKET;0:ah ROCKET;0:ay ROCKET;0:it em ET cn;0:bl it em ET cn;0:em fg ET cn",
    "0:bl em fg ET cn;1:nd cn;0:SWASH nd cn;0:er bl al ch et eg bj cn;3:et eg bj cn",
    "2:is al et eg bj cn;0:bl qx cn;0:er qx cn;0:bl er qx cn;0:nr bl hj;ie hj;0:CHECKER BOARD",
    "0:ie CHECKER BOARD;0:ROCKET;HELICOPTER;STEAM LOCOMOTIVE;0:RAILWAY CAR;0:HIGH-SPEED TRAIN",
    "2:ab ne NOSE;0:TRAIN;METRO;cl RAIL;0:STATION;TRAM;1:CAR;0:BUS;yy BUS;0:TROLLEYBUS;BUS ge",
    "0:MINIBUS;AMBULANCE;FIRE ENGINE;0:POLICE CAR;0:yy POLICE CAR;0:TAXI;yy TAXI;0:AUTOMOBILE",
    "yy AUTOMOBILE;0:RECREATIONAL VEHICLE;0:DELIVERY TRUCK;0:ARTICULATED LORRY;0:TRACTOR;MONORAIL",
    "qa RAILWAY;0:SUSPENSION RAILWAY;0:qa CABLEWAY;0:AERIAL TRAMWAY;0:SHIP;ROWBOAT;SPEEDBOAT",
    "as TRAFFIC cl;0:an TRAFFIC cl;0:xw ak;0:POLICE CARS REVOLVING cl;0:ez FLAG ON POST;0:DOOR",
    "NO ENTRY ak;0:SMOKING au;0:NO SMOKING au;0:PUT LITTER IN ITS PLACE au;0:DO mt LITTER au",
    "0:POTABLE tn au;0:NON-POTABLE tn au;0:BICYCLE;NO BICYCLES;0:BICYCLIST;qa BICYCLIST",
    "0:PEDESTRIAN;NO PEDESTRIANS;0:CHILDREN ep;0:MENS au;0:WOMENS au;0:RESTROOM;BABY au;0:TOILET",
    "tn CLOSET;0:SHOWER;BATH;BATHTUB;PASSPORT CONTROL;0:CUSTOMS;BAGGAGE CLAIM;0:av LUGGAGE",
    "0:bg ab pc xy;0:PROHIBITED ak;0:dk INFORMATION SOURCE;0:BOYS au;0:GIRLS au;0:COUCH bi LAMP",
    "0:SLEEPING ACCOMMODATION;0:SHOPPING BAGS;0:BELLHOP BELL;0:BED;PLACE OF WORSHIP;0:OCTAGONAL ak",
    "0:SHOPPING TROLLEY;0:STUPA;PAGODA;HINDU TEMPLE;0:HUT;ELEVATOR;@1F6DD PLAYGROUND SLIDE;0:WHEEL",
    "ei BUOY;0:HAMMER bi WRENCH;0:SHIELD;OIL DRUM;0:MOTORWAY;RAILWAY TRACK;0:MOTOR BOAT",
    "0:hd MILITARY rp;1:rp;ad rp;0:ad rp;0:NORTHEAST-POINTING rp;0:rp DEPARTURE;ARRIVING",
    "@1F6F0 0:SATELLITE;yy FIRE ENGINE;0:DIESEL LOCOMOTIVE;0:PASSENGER SHIP;0:SCOOTER",
    "MOTOR SCOOTER;0:CANOE;SLED;FLYING SAUCER;0:SKATEBOARD;AUTO RICKSHAW;0:PICKUP TRUCK",
    "0:ROLLER SKATE;@1F700 0:ALCHEMICAL au tp QUINTESSENCE;AIR;FIRE;rr;tn;AQUAFORTIS;AQUA REGIA",
    "REGIA-2;VITAE;VITAE-2;3:VINEGAR;VINEGAR-2;+;SULFUR;PHILOSOPHERS SULFUR;3:ax SULFUR",
    "3:MERCURY vs;SUBLIMATE-2;+;3:CINNABAR;SALT;NITRE;VITRIOL;VITRIOL-2;ROCK SALT;SALT-2;3:GOLD",
    "SILVER;IRON ORE;ORE-2;3:CROCUS OF IRON;3:REGULUS OF IRON;3:COPPER ORE;3:IRON-COPPER ORE",
    "3:vs OF COPPER;3:CROCUS OF COPPER;COPPER-2;3:COPPER ANTIMONIATE;3:SALT OF COPPER ANTIMONIATE",
    "3:vs OF SALT OF COPPER;3:VERDIGRIS;TIN ORE;3:LEAD ORE;3:tv ORE;3:vs OF tv;3:SALT OF tv",
    "3:vs OF SALT OF tv;3:VINEGAR OF tv;3:REGULUS OF tv;ANTIMONY-2;3:REGULUS;REGULUS-2;+2;ALKALI",
    "ALKALI-2;MARCASITE;SAL-AMMONIAC;ARSENIC;REALGAR;REALGAR-2;AURIPIGMENT;BISMUTH ORE;3:TARTAR",
    "TARTAR-2;QUICK LIME;3:BORAX;BORAX-2;+;ALUM;OIL;SPIRIT;TINCTURE;GUM;WAX;POWDER;CALX;TUTTY",
    "CAPUT MORTUUM;3:SCEPTER OF JOVE;3:CADUCEUS;TRIDENT;STARRED TRIDENT;3:LODESTONE;SOAP;URINE",
    "HORSE DUNG;3:ASHES;POT ASHES;3:BRICK;POWDERED BRICK;3:AMALGAM;STRATUM SUPER STRATUM;STRATUM-2",
    "3:SUBLIMATION;PRECIPITATE;DISTILL;DISSOLVE;DISSOLVE-2;PURIFY;PUTREFACTION;CRUCIBLE;CRUCIBLE-2",
    "+3;ALEMBIC;BATH OF MARY;VAPOURS;3:RETORT;HOUR;NIGHT;DAY-NIGHT;MONTH;dg DRAM;OUNCE",
    "@1F780 0:ax eb ISOSCELES ai bg;1:hd ISOSCELES ai bg;1:da ISOSCELES ai bg;1:gv ISOSCELES ai bg",
    "1:SLIGHTLY ad bo;0:ce mz bc bo;0:mz bc bo;0:bl bc bo;0:nr bl bc bo;0:rs bl bc bo",
    "0:bc bo nf ax ad bo;0:va TARGET;0:ax TINY bn;1:SLIGHTLY ad bn;0:cl bc bn;0:ce bc bn",
    "0:mz bc bn;0:bl bc bn;0:nr bl bc bn;0:rs bl bc bn;0:bc bn nf ax nr ad bn;4:ce bn;0:bn TARGET",
    "0:ax TINY ek;1:nr ad ek;1:ce ad ek;0:bc ek nf ax nr ad ek;4:ce ek;0:ek TARGET;0:ax TINY lq",
    "1:nr ad lq;1:ce ad lq;0:bc lq nf ax ad lq;0:THIN kn gr;0:cl kn gr;0:ce kn gr;0:mz kn gr",
    "0:nr mz kn gr;1:bl kn gr;0:rs bl kn gr;0:THIN ny;0:cl ny;0:ce ny;0:mz ny;0:bl ny;0:nr bl ny",
    "0:rs bl ny;0:cl by kz dh;0:ce by kz dh;0:mz by kz dh;0:bl by kz dh;0:nr bl by kz dh",
    "0:rs bl by kz dh;0:cl fx kz dh;0:ce fx kz dh;0:mz fx kz dh;0:bl fx kz dh;0:nr bl fx kz dh",
    "0:rs bl fx kz dh;0:cl br kz dh;0:ce br kz dh;0:mz br kz dh;0:bl br kz dh;0:nr bl br kz dh",
    "0:cl aw fa ax hk;0:ce aw fa ax hk;0:aw fa ax hk;0:ce aw fa oi hk;0:cl bt fa ax hk",
    "0:ce bt fa ax hk;0:bt fa ax hk;0:ce bt fa oi hk;0:ie cl bt fa oi hk;0:cl by fa ax hk",
    "0:bl by fa ax hk;0:ce fx fa ax hk;0:bl fx fa ax hk;0:fx fa oi hk;0:ce br fa ax hk",
    "0:bl br fa ax hk;0:nr bl br fa ax hk;0:bl br fa oi hk;0:cl np fa ax hk;0:bl np fa ax hk",
    "3:oi hk;0:dk bg;0:jf dk bg;0:dk bn;0:jf dk bn;@1F7E0 0:ee ORANGE bo;1:YELLOW bo;1:GREEN bo",
    "1:PURPLE bo;1:BROWN bo;1:RED bn;1:BLUE bn;1:ORANGE bn;1:YELLOW bn;1:GREEN bn;1:PURPLE bn",
    "1:BROWN bn;@1F7F0 0:bl gn ak;@1F800 0:am ae ab ad bg bm;0:bp ae ab ad bg bm",
    "0:ah ae ab ad bg bm;0:ay ae ab ad bg bm;0:am ae ab ce bg bm;0:bp ae ab ce bg bm",
    "0:ah ae ab ce bg bm;0:ay ae ab ce bg bm;0:am ae ab ee bg bm;0:bp ae ab ee bg bm",
    "0:ah ae ab ee bg bm;0:ay ae ab ee bg bm;@1F810 0:am ae ab ad ed bm;0:bp ae ab ad ed bm",
    "0:ah ae ab ad ed bm;0:ay ae ab ad ed bm;0:am ae ab ed bm;0:bp ae ab ed bm;0:ah ae ab ed bm",
    "0:ay ae ab ed bm;0:bl am ae ab ed bm;1:bp ae ab ed bm;1:ah ae ab ed bm;1:ay ae ab ed bm",
    "1:am ae ab ee ed bm;1:bp ae ab ee ed bm;1:ah ae ab ee ed bm;1:ay ae ab ee ed bm",
    "0:am ao ae ab NARROW lk;0:bp ao ae ab NARROW lk;0:ah ao ae ab NARROW lk",
    "0:ay ao ae ab NARROW lk;0:am ao ae ab ce lk;0:bp ao ae ab ce lk;0:ah ao ae ab ce lk",
    "0:ay ao ae ab ce lk;0:am ao ae ab mz lk;0:bp ao ae ab mz lk;0:ah ao ae ab mz lk",
    "0:ay ao ae ab mz lk;0:am ao ae ab bl lk;0:bp ao ae ab bl lk;0:ah ao ae ab bl lk",
    "0:ay ao ae ab bl lk;0:am ao ae ab nr bl lk;0:bp ao ae ab nr bl lk;0:ah ao ae ab nr bl lk",
    "0:ay ao ae ab nr bl lk;0:am ug ae;0:bp ug ae;0:ah ug ae;0:ay ug ae;0:am fb ae;0:bp fb ae",
    "0:ah fb ae;0:ay fb ae;0:am lv ae;0:bp lv ae;0:ah lv ae;0:ay lv ae;0:am bl lv ae;0:bp bl lv ae",
    "0:ah bl lv ae;0:ay bl lv ae;0:am bl ae;0:bp bl ae;0:ah bl ae;0:ay bl ae;@1F850 0:am er ae",
    "0:bp er ae;0:ah er ae;0:ay er ae;0:gi ic er ae;1:hc er ae;0:gz hc er ae;1:ic er ae",
    "0:av ai er ae;0:UP di er ae;@1F860 0:WIDE-HEADED am cl en ae;1:bp cl en ae;1:ah cl en ae",
    "1:ay cl en ae;1:gi ic cl en ae;2:hc cl en ae;1:gz hc cl en ae;2:ic cl en ae;1:am en ae",
    "1:bp en ae;1:ah en ae;1:ay en ae;1:gi ic en ae;2:hc en ae;1:gz hc en ae;2:ic en ae",
    "1:am ce en ae;1:bp ce en ae;1:ah ce en ae;1:ay ce en ae;1:gi ic ce en ae;2:hc ce en ae",
    "1:gz hc ce en ae;2:ic ce en ae;1:am bl en ae;1:bp bl en ae;1:ah bl en ae;1:ay bl en ae",
    "1:gi ic bl en ae;2:hc bl en ae;1:gz hc bl en ae;2:ic bl en ae;1:am nr bl en ae",
    "1:bp nr bl en ae;1:ah nr bl en ae;1:ay nr bl en ae;1:gi ic nr bl en ae;2:hc nr bl en ae",
    "1:gz hc nr bl en ae;2:ic nr bl en ae;@1F890 0:am bg bm;0:bp bg bm;0:ah bg bm;0:ay bg bm",
    "0:am bc ae WITHIN bg bm;0:bp bc ae WITHIN bg bm;0:ah bc ae WITHIN bg bm",
    "0:ay bc ae WITHIN bg bm;0:am ae ab ra hw;0:bp ae ab ra hw;0:ah ae ab ra hw;0:ay ae ab ra hw",
    "0:bl ae lk WIDTH cs;co vh;4:cs dg;tm;0:am BOTTOM-SHADED bc ae;0:ah ha SHADED bc ae",
    "0:am se SHADED bc ae;0:ah se SHADED bc ae;0:am LEFT-SHADED bc ae;0:ah zj bc ae;0:am zj bc ae",
    "0:ah LEFT-SHADED bc ae;0:am BACK-TILTED kg bc ae;0:ah BACK-TILTED kg bc ae;0:am yi kg bc ae",
    "0:ah yi kg bc ae;0:bc ae lk WIDTH cs;co vh;@1F8B0 0:ae cb bp THEN gi ic",
    "2:ah THEN CURVING gz ic;@1F900 0:dk gr FORMEE ab bt du;4:co du;2:FORMEE;0:av dg bo ab bt du",
    "4:aw du;4:co du;4:cy;2:bo;0:DOWNWARD FACING bw;ra bw;2:bw ab cy;2:ra bw ab cy;0:PINCHED hh",
    "0:bc jm;0:BROWN jm;0:PINCHING mf;0:ZIPPER-MOUTH ds;0:MONEY-MOUTH ds;0:ds ab THERMOMETER",
    "0:NERD ds;0:THINKING ds;0:ds ab HEAD-BANDAGE;0:ROBOT ds;0:HUGGING ds;0:ak OF ts HORNS",
    "0:CALL ME mf;0:ig BACK OF mf;0:up FIST;0:sz FIST;0:HANDSHAKE;mf ab ck bi bb hh ln",
    "0:I LOVE YOU mf ak;0:ds ab COWBOY HAT;0:CLOWN ds;0:NAUSEATED ds;0:ROLLING ON ts yg LAUGHING",
    "0:DROOLING ds;0:LYING ds;0:ds PALM;0:SNEEZING ds;0:ds ab cs EYEBROW ig;0:GRINNING ds ab hk rt",
    "3:cs ee bi cs ad EYE;0:ds ab wq COVERING gl LIPS;0:SERIOUS ds ab SYMBOLS COVERING md",
    "0:jq ds ab jq rt bi mf COVERING md;0:ds ab fg md VOMITING;0:SHOCKED ds ab EXPLODING tq",
    "0:PREGNANT WOMAN;0:BREAST-FEEDING;PALMS UP TOGETHER;0:SELFIE;PRINCE;MAN IN TUXEDO",
    "0:MOTHER CHRISTMAS;0:SHRUG;ly DOING CARTWHEEL;0:JUGGLING;FENCER;MODERN PENTATHLON;0:WRESTLERS",
    "tn POLO;0:HANDBALL;DIVING MASK;0:WILTED FLOWER;0:DRUM ab DRUMSTICKS;0:CLINKING GLASSES",
    "0:TUMBLER GLASS;0:SPOON;GOAL NET;0:RIFLE;FIRST PLACE MEDAL;0:SECOND PLACE MEDAL",
    "0:tm PLACE MEDAL;0:BOXING GLOVE;0:MARTIAL ARTS UNIFORM;0:CURLING STONE",
    "0:LACROSSE STICK bi BALL;0:SOFTBALL;FLYING DISC;0:CROISSANT;AVOCADO;CUCUMBER;BACON;POTATO",
    "CARROT;BAGUETTE BREAD;0:GREEN SALAD;0:SHALLOW PAN OF FOOD;0:STUFFED FLATBREAD;0:EGG",
    "GLASS OF MILK;0:PEANUTS;KIWIFRUIT;PANCAKES;DUMPLING;FORTUNE COOKIE;0:TAKEOUT BOX;0:CHOPSTICKS",
    "BOWL ab SPOON;0:CUP ab STRAW;0:COCONUT;BROCCOLI;PIE;PRETZEL;CUT OF MEAT;0:SANDWICH",
    "CANNED FOOD;0:LEAFY GREEN;0:MANGO;oo CAKE;0:BAGEL;jq ds ab jq rt bi aw ld;0:YAWNING ds",
    "0:jq ds ab TEAR;0:ds ab PARTY le bi PARTY HAT;2:UNEVEN rt bi WAVY md;0:OVERHEATED ds",
    "0:FREEZING ds;0:NINJA;DISGUISED ds;0:ds yl BACK TEARS;1:ab PLEADING rt;0:SARI;LAB COAT",
    "0:GOGGLES;HIKING BOOT;0:FLAT SHOE;0:CRAB;LION ds;0:SCORPION;TURKEY;UNICORN ds;0:EAGLE;DUCK",
    "BAT;SHARK;OWL;FOX ds;0:BUTTERFLY;DEER;GORILLA;LIZARD;RHINOCEROS;SHRIMP;SQUID;GIRAFFE ds",
    "0:ZEBRA ds;0:HEDGEHOG;SAUROPOD;T-REX;CRICKET;KANGAROO;LLAMA;PEACOCK;HIPPOPOTAMUS;PARROT",
    "RACCOON;LOBSTER;MOSQUITO;MICROBE;BADGER;SWAN;MAMMOTH;DODO;SLOTH;OTTER;ORANGUTAN;SKUNK",
    "FLAMINGO;OYSTER;BEAVER;BISON;SEAL;GUIDE DOG;0:PROBING CANE;0:EMOJI COMPONENT RED HAIR",
    "2:kc HAIR;2:BALD;bc HAIR;0:BONE;LEG;FOOT;TOOTH;SUPERHERO;SUPERVILLAIN;SAFETY VEST",
    "0:EAR ab HEARING AID;0:MOTORIZED WHEELCHAIR;0:MANUAL WHEELCHAIR;0:MECHANICAL ARM;LEG",
    "0:CHEESE WEDGE;0:CUPCAKE;SALT SHAKER;0:BEVERAGE BOX;0:GARLIC;ONION;FALAFEL;WAFFLE;BUTTER",
    "MATE DRINK;0:ICE CUBE;0:tz TEA;0:TROLL;STANDING ly;0:KNEELING ly;0:DEAF ly;0:ds ab MONOCLE",
    "0:ADULT;CHILD;OLDER ADULT;0:BEARDED ly;0:ly ab HEADSCARF;1:IN STEAMY ROOM;1:CLIMBING",
    "IN LOTUS POSITION;0:MAGE;FAIRY;VAMPIRE;MERPERSON;ELF;GENIE;ZOMBIE;BRAIN;ORANGE jm",
    "0:BILLED CAP;0:SCARF;GLOVES;COAT;SOCKS;RED GIFT oc;0:FIRECRACKER;JIGSAW PUZZLE PIECE",
    "0:TEST TUBE;0:PETRI qs;0:DNA al HELIX;0:COMPASS;ABACUS;FIRE EXTINGUISHER;0:TOOLBOX;BRICK",
    "MAGNET;LUGGAGE;LOTION BOTTLE;0:SPOOL OF THREAD;0:BALL OF YARN;0:SAFETY PIN;0:TEDDY BEAR",
    "0:BROOM;BASKET;ROLL OF PAPER;0:gf OF SOAP;0:SPONGE;RECEIPT;NAZAR AMULET;0:hu ip un;qi;ROOK;pl",
    "ht;PAWN;0:bc ip ht cp FORTY-FIVE dn;0:ax ip ht cp FORTY-FIVE dn;0:hu ip ht cp FORTY-FIVE dn",
    "0:bc ip un cp gb dn;2:qi cp gb dn;2:ROOK cp gb dn;2:pl cp gb dn;2:ht cp gb dn;2:PAWN cp gb dn",
    "0:ax ip un cp gb dn;2:qi cp gb dn;2:ROOK cp gb dn;2:pl cp gb dn;2:ht cp gb dn;2:PAWN cp gb dn",
    "0:hu ip un cp gb dn;2:qi cp gb dn;2:ROOK cp gb dn;2:pl cp gb dn;2:ht cp gb dn;2:PAWN cp gb dn",
    "0:bc ip ht cp cs az THIRTY-FIVE dn;0:ax ip ht cp cs az THIRTY-FIVE dn",
    "0:hu ip ht cp cs az THIRTY-FIVE dn;0:bc ip ch un;qi;ROOK;pl;ht;PAWN;0:ax ip ch un;qi;ROOK;pl",
    "ht;PAWN;0:hu ip ch un;qi;ROOK;pl;ht;PAWN;0:bc ip ht cp co az vj dn;0:ax ip ht cp co az vj dn",
    "0:hu ip ht cp co az vj dn;0:bc ip un cp co az ff dn;2:qi cp co az ff dn;2:ROOK cp co az ff dn",
    "2:pl cp co az ff dn;2:ht cp co az ff dn;2:PAWN cp co az ff dn;0:ax ip un cp co az ff dn",
    "2:qi cp co az ff dn;2:ROOK cp co az ff dn;2:pl cp co az ff dn;2:ht cp co az ff dn",
    "2:PAWN cp co az ff dn;0:hu ip un cp co az ff dn;2:qi cp co az ff dn;2:ROOK cp co az ff dn",
    "2:pl cp co az ff dn;2:ht cp co az ff dn;2:PAWN cp co az ff dn;0:bc ip ht cp aw az nv dn",
    "0:ax ip ht cp aw az nv dn;0:hu ip ht cp aw az nv dn;0:bc ip pt;0:ax ip pt;0:hu ip pt",
    "0:bc ip pt cp gb dn;0:ax ip pt cp gb dn;0:hu ip pt cp gb dn;0:bc ip KNIGHT-QUEEN;KNIGHT-ROOK",
    "KNIGHT-BISHOP;0:ax ip KNIGHT-QUEEN;KNIGHT-ROOK;KNIGHT-BISHOP;@1FA60 0:XIANGQI RED GENERAL",
    "MANDARIN;ELEPHANT;HORSE;CHARIOT;CANNON;SOLDIER;1:ax GENERAL;MANDARIN;ELEPHANT;HORSE;CHARIOT",
    "CANNON;SOLDIER;@1FA70 0:BALLET SHOES;0:ONE-PIECE SWIMSUIT;0:BRIEFS;SHORTS;THONG SANDAL",
    "@1FA78 0:DROP OF BLOOD;0:ADHESIVE BANDAGE;0:STETHOSCOPE;X-RAY;CRUTCH;@1FA80 YO-YO;KITE",
    "PARACHUTE;BOOMERANG;MAGIC WAND;0:PINATA;NESTING DOLLS;@1FA90 0:RINGED PLANET;0:CHAIR;RAZOR",
    "AXE;DIYA LAMP;0:BANJO;MILITARY HELMET;0:ACCORDION;fl DRUM;0:COIN;CARPENTRY SAW;0:SCREWDRIVER",
    "LADDER;bw;MIRROR;WINDOW;PLUNGER;SEWING NEEDLE;0:KNOT;BUCKET;MOUSE TRAP;0:TOOTHBRUSH;HEADSTONE",
    "PLACARD;ROCK;MIRROR BALL;0:IDENTIFICATION CARD;0:is BATTERY;0:HAMSA;@1FAB0 FLY;WORM;BEETLE",
    "COCKROACH;POTTED PLANT;0:WOOD;FEATHER;LOTUS;CORAL;EMPTY NEST;0:NEST ab EGGS",
    "@1FAC0 0:ANATOMICAL jm;0:LUNGS;PEOPLE HUGGING;0:PREGNANT MAN;ly;0:ly ab CROWN",
    "@1FAD0 0:BLUEBERRIES;BELL PEPPER;0:OLIVE;FLATBREAD;TAMALE;FONDUE;TEAPOT;POURING LIQUID",
    "0:BEANS;JAR;@1FAE0 MELTING ds;0:SALUTING ds;0:ds ab fg rt bi mf dy md;2:PEEKING EYE;2:dl md",
    "0:fy gw ds;0:BITING LIP;0:BUBBLES;@1FAF0 mf ab ck wq bi dt ln;0:ah mf;0:am mf;0:PALM di mf",
    "1:UP mf;0:ck cb AT ts VIEWER;0:jm HANDS;@1FB00 0:ey SEXTANT-1;+;SEXTANT-12;SEXTANT-3",
    "SEXTANT-13;SEXTANT-23;SEXTANT-123;SEXTANT-4;SEXTANT-14;SEXTANT-24;SEXTANT-124;SEXTANT-34",
    "SEXTANT-134;SEXTANT-234;SEXTANT-1234;SEXTANT-5;SEXTANT-15;SEXTANT-25;SEXTANT-125;SEXTANT-35",
    "SEXTANT-235;SEXTANT-1235;SEXTANT-45;SEXTANT-145;SEXTANT-245;SEXTANT-1245;SEXTANT-345",
    "SEXTANT-1345;SEXTANT-2345;SEXTANT-12345;SEXTANT-6;SEXTANT-16;SEXTANT-26;SEXTANT-126",
    "SEXTANT-36;SEXTANT-136;SEXTANT-236;SEXTANT-1236;SEXTANT-46;SEXTANT-146;SEXTANT-1246",
    "SEXTANT-346;SEXTANT-1346;SEXTANT-2346;SEXTANT-12346;SEXTANT-56;SEXTANT-156;SEXTANT-256",
    "SEXTANT-1256;SEXTANT-356;SEXTANT-1356;SEXTANT-2356;SEXTANT-12356;SEXTANT-456;SEXTANT-1456",
    "SEXTANT-2456;SEXTANT-12456;SEXTANT-3456;SEXTANT-13456;SEXTANT-23456",
    "0:cu av ey dl cu bb av TO cu dz;ai;4:dr bb av TO cu dz;ai;5:av TO cu dz",
    "1:ai ey dl dr bb av TO dr dz;ai;4:cu bb av TO dr dz;ai;5:av TO dr dz;5:bb av TO dr bb ai",
    "5:dz TO cu bb ai;5:av TO cu bb ai;5:dz TO dr bb ai;5:av TO dr bb ai;5:dz TO dr ai",
    "1:av ey dl dr dz TO dr bb ai;5:av TO dr bb ai;5:dz TO cu bb ai;5:av TO cu bb ai;5:dz TO cu ai",
    "5:bb av TO cu bb ai;0:dr ai ey dl cu bb av TO cu dz;ai;4:dr bb av TO cu dz;ai;5:av TO cu dz",
    "1:av ey dl dr bb av TO dr dz;ai;4:cu bb av TO dr dz;ai;5:av TO dr dz;5:bb av TO dr bb ai",
    "5:dz TO cu bb ai;5:av TO cu bb ai;5:dz TO dr bb ai;5:av TO dr bb ai;5:dz TO dr ai",
    "1:ai ey dl dr dz TO dr bb ai;5:av TO dr bb ai;5:dz TO cu bb ai;5:av TO cu bb ai;5:dz TO cu ai",
    "5:bb av TO cu bb ai;1:bi ai bi cu ez aw ji ey;0:av bi cu bi ai ez aw ji ey",
    "0:dr bi av bi cu ez aw ji ey;0:av bi dr bi ai ez aw ji ey;1:ez cs fk ey;0:dr ez cs fk ey",
    "0:ai ez cs fk ey;0:cu ez cs fk ey;0:an cs hy BLOCK-2;+5;0:as cs hy BLOCK-2;+5",
    "0:av bi cu cs hy ey;2:dr cs hy ey;0:ai bi dr cs hy ey;2:cu cs hy ey;0:dr bi cu cs hy ey",
    "0:as cs hy BLOCK-1358;0:dr cs fk ey;1:aw km ey;1:by km ey;1:aw ji ey;1:bv km ey;0:ai cs fk ey",
    "1:aw km ey;1:by km ey;1:aw ji ey;1:bv km ey;0:av dg ce rd;0:ai dg ce rd;0:dr dg ce rd",
    "0:cu dg ce rd;0:oz ce rd;0:dr dg ey bi cu dg oz ce rd;2:oz ce rd bi cu dg ey",
    "@1FB94 0:av dg oz ce rd bi ai dg ey;0:CHECKER BOARD FILL;0:oz CHECKER BOARD FILL;0:bl as FILL",
    "0:dr av TO cu ai FILL;1:ai TO cu av FILL;1:bi cu ez dg ey;0:av bi ai ez dg ey",
    "0:dr av ez ce rd;1:ai ez ce rd;0:cu ai ez ce rd;1:av ez ce rd",
    "0:BOX DRAWINGS cl dl dr dz TO bb av;ai;4:bb av TO cu dz;5:ai TO cu dz",
    "4:dr dz TO bb av TO cu dz;8:ai TO cu dz;4:bb av TO cu dz TO bb ai;7:dr dz TO bb ai",
    "4:dr dz TO bb av bi bb ai TO cu dz;8:ai bi bb av TO cu dz;9:TO cu dz TO bb av",
    "8:av TO cu dz TO bb ai;4:bb av TO dr dz TO bb ai TO cu dz;5:ai TO dr dz TO bb av TO cu dz",
    "4:ek;3:as ab an at;0:ARROWHEAD-SHAPED POINTER;0:oz ua bj;0:av dg RUNNING MAN",
    "0:ai dg RUNNING MAN;0:oz ay ae ab TIP am;0:am ae bi dr bi cu cs hy ey",
    "0:ah ae bi dr bi cu cs hy ey;0:ay ae bi ai cs hy ey;0:bp ae bi ai cs hy ey;0:av dg FOLDER",
    "0:ai dg FOLDER;0:VOIDED kn gr;0:ai fg fb cy;0:jf dl gr;bb ai TO cu dz;2:ek",
    "0:bc bl ny ab pc xy;0:av tm bc ai cb ck;0:bb tm bc ai cb ck;0:ai tm bc ai cb ck;0:jf fb fc bj",
    "0:STICK FIGURE;2:ab ARMS ig;2:LEANING av;ai;2:ab DRESS;0:bc hd CHEVRON",
    "@1FBF0 0:SEGMENTED cr ex;cs;co;aw;bt;by;fx;bv;br;dm;@E0001 0:LANGUAGE TAG;@E0020 0:TAG ll",
    "dw bj;1:eg bj;1:dq ak;1:DOLLAR ak;1:PERCENT ak;1:nd;ku;av cd;1:ai cd;1:dh;cz ak;1:et;sq;if ge",
    "1:hj;cr ex;cs;co;aw;bt;by;fx;bv;br;dm;1:iw;jt;bu ak;1:gn ak;1:bh ak;1:fc bj;1:sn AT",
    "1:ft ac aa A;+25;1:av bn bd;1:ie hj;1:ai bn bd;1:be fs;1:is gw;1:ef fs;1:ft ad aa A;+25",
    "1:av kc bd;1:an gw;1:ai kc bd;1:cq;0:CANCEL TAG;@E0100 0:vu SELECTOR-17;+2;SELECTOR-20;+9",
    "SELECTOR-30;+9;SELECTOR-40;+9;SELECTOR-50;+9;SELECTOR-60;+9;SELECTOR-70;+9;SELECTOR-80;+9",
    "SELECTOR-90;+9;SELECTOR-100;+9;SELECTOR-110;+9;SELECTOR-120;+9;SELECTOR-130;+9;SELECTOR-140",
    "+9;SELECTOR-150;+9;SELECTOR-160;+9;SELECTOR-170;+9;SELECTOR-180;+9;SELECTOR-190;+9",
    "SELECTOR-200;+9;SELECTOR-210;+9;SELECTOR-220;+9;SELECTOR-230;+9;SELECTOR-240;+9;SELECTOR-250",
    "+6"]

end DenseSketch.Text.Name
